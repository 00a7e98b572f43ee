import SuplaCore.Client.Channels
import SuplaCore.Client.Proof.ObjContainer
import SuplaCore.Lib.Collect
import Mathlib.Tactic.Choose

/-!
# Synchronising the channels of a client

`Synchronised` says what the messages of one data type have to be for the channels that are marked.
The packs of channels and values are filled as packs of the library are (`getDatapackForRemote_eq`),
and so are those of extended values, which always have room for five (`getEvDatapackForRemote_eq`).
`synchronised_iff` says for which marks all data types are synchronised.
-/

namespace Client.Channels

open Batch ObjContainer Srpc

variable {V : Type}

/-! ## What a synchronisation has to do -/

/-- What a client is told of a channel. -/
inductive Record (V : Type)
  | channel (id : Int) (content : V)
  | extendedValue (cev : Cev)

def Item.record (item : Item V) : Record V := .channel item.id item.content

namespace Message

def dataType : Message V → DataType
  | .channelpackUpdate .. => .data1
  | .channelvaluePackUpdate .. => .data2
  | .channelValueUpdate _ => .data2
  | .channelextendedvaluePackUpdate _ => .data3

def records : Message V → List (Record V)
  | .channelpackUpdate _ pack => pack.items.map Item.record
  | .channelvaluePackUpdate _ pack => pack.items.map Item.record
  | .channelValueUpdate value => [value.record]
  | .channelextendedvaluePackUpdate pack => pack.items.map .extendedValue

def totalLeft : Message V → Option Nat
  | .channelpackUpdate _ pack => some pack.totalLeft
  | .channelvaluePackUpdate _ pack => some pack.totalLeft
  | .channelValueUpdate _ => none
  | .channelextendedvaluePackUpdate pack => some pack.totalLeft

/-- The flags of the items; those of extended values have none. -/
def eols : Message V → List Bool
  | .channelpackUpdate _ pack => pack.items.map Item.eol
  | .channelvaluePackUpdate _ pack => pack.items.map Item.eol
  | .channelValueUpdate value => [value.eol]
  | .channelextendedvaluePackUpdate _ => []

end Message

/-- The data that a channel has for a data type in a version of the protocol. -/
def Channel.dataFor (version : Nat) (t : DataType) (c : Channel V) : Option (Record V) :=
  match t with
  | .data1 => some c.protoGet.record
  | .data2 => some c.protoGet.record
  | .data3 =>
    if version ≥ 10 then (c.protoGetExtendedValue version).map .extendedValue else none

def maxcount : DataType → Nat
  | .data1 => channelpackMaxcount
  | .data2 => channelvaluePackMaxcount
  | .data3 => channelextendedvaluePackMaxcount

/-- `total_left` is what the messages after a pack transmit. -/
def LeftCounted : List (Message V) → Prop
  | [] => True
  | m :: msgs =>
    (∀ n ∈ m.totalLeft, n = (msgs.flatMap Message.records).length) ∧ LeftCounted msgs

/-- Flags of which the last one is set. -/
def lastOnly : Nat → List Bool
  | 0 => []
  | n + 1 => List.replicate n false ++ [true]

/-- Each channel that has data is told of once, in order. -/
def Transmitted (version : Nat) (t : DataType) (channels : List (Channel V))
    (msgs : List (Message V)) : Prop :=
  msgs.flatMap Message.records = channels.filterMap (Channel.dataFor version t)

/-- The messages of a data type for the channels that are marked for it. -/
structure Synchronised (version : Nat) (t : DataType) (channels : List (Channel V))
    (msgs : List (Message V)) : Prop where
  transmitted : Transmitted version t channels msgs
  maxcount : ∀ m ∈ msgs, m.records.length ≤ maxcount t
  leftCounted : LeftCounted msgs
  ended : t ≠ .data3 →
    msgs.flatMap Message.eols = lastOnly (msgs.flatMap Message.records).length

/-- The messages of a data type. -/
def sent (t : DataType) (msgs : List (Message V)) : List (Message V) :=
  msgs.filter fun m => m.dataType = t

/-- No value is to be sent to a client of a version below 9, and no channel without an extended
value comes after one that has one. -/
structure Whole (version : Nat) (objs : List (Obj DataType (Channel V))) : Prop where
  values : version < 9 → marked .data2 objs = []
  extendedValues : version ≥ 10 → (marked .data3 objs).Pairwise fun c d =>
    (c.protoGetExtendedValue version).isSome → (d.protoGetExtendedValue version).isSome

/-! ## Collecting -/

theorem getDatapackForRemote_eq {maxCount : Nat} (hmax : 0 < maxCount) (c : Channel V)
    (data : Option (Pack (Item V))) :
    getDatapackForRemote maxCount c data =
      ⟨(put maxCount (fun c : Channel V => some c.protoGet) c data).1,
        (put maxCount (fun c : Channel V => some c.protoGet) c data).2, true⟩ := by
  cases data with
  | none =>
    rw [getDatapackForRemote, put, Option.getD_none]
    exact if_pos hmax
  | some p =>
    rw [getDatapackForRemote, put, Option.getD_some]
    simp only
    split <;> rfl

theorem Cev.size_le (cev : Cev) : cev.size ≤ 1033 := by
  have hle := cev.value.2
  show 4 + (1 + 4) + _ ≤ _
  unfold channelExtendedValueSize at hle
  omega

theorem packSize_le (p : Pack Cev) : packSize p ≤ p.items.length * 1033 := by
  rw [packSize]
  induction p.items with
  | nil => exact Nat.le_refl 0
  | cons cev items ih =>
    have hsize := cev.size_le
    rw [List.map_cons, List.sum_cons, List.length_cons]
    omega

/-- A pack of less than five has room. -/
theorem getEvDatapackForRemote_eq (version : Nat) (c : Channel V) (data : Option (Pack Cev)) :
    getEvDatapackForRemote version c data =
      ⟨(put channelextendedvaluePackMaxcount (Channel.protoGetExtendedValue version) c data).1,
        (put channelextendedvaluePackMaxcount (Channel.protoGetExtendedValue version) c data).2,
        true⟩ := by
  have hmax : channelextendedvaluePackMaxdatasize = 10190 := rfl
  cases data with
  | none =>
    rw [getEvDatapackForRemote, put]
    cases c.protoGetExtendedValue version with
    | none => rfl
    | some cev =>
      have hsize := cev.size_le
      exact if_pos (by omega)
  | some p =>
    have hpack := packSize_le p
    rw [getEvDatapackForRemote, put]
    by_cases hcount : p.items.length < channelextendedvaluePackMaxcount
    · have hroom : packSize p < 5 * 1033 := by
        unfold channelextendedvaluePackMaxcount at hcount
        omega
      rw [if_neg (by omega)]
      cases c.protoGetExtendedValue version with
      | none => rfl
      | some cev =>
        have hsize := cev.size_le
        simp only
        rw [if_pos (by omega), if_pos hcount]
    · rw [if_pos (.inl (Nat.le_of_not_lt hcount))]
      cases c.protoGetExtendedValue version with
      | none => rfl
      | some cev =>
        simp only
        rw [if_neg hcount]

/-! ## The end of a list -/

theorem replicate_append_lastOnly (n : Nat) {m : Nat} (hm : 0 < m) :
    List.replicate n false ++ lastOnly m = lastOnly (n + m) := by
  obtain ⟨m, rfl⟩ : ∃ k, m = k + 1 := ⟨m - 1, by omega⟩
  show _ ++ (List.replicate m false ++ [true]) = List.replicate (n + m) false ++ [true]
  rw [← List.append_assoc, List.replicate_append_replicate]

/-- The last of the items is changed, if there is one. -/
theorem modify_last {α : Type} (f : α → α) {l : List α} (h : l ≠ []) :
    ∃ init a, l = init ++ [a] ∧ l.modify (l.length - 1) f = init ++ [f a] := by
  have hpos : 0 < l.length := List.length_pos_iff.mpr h
  obtain ⟨init, a, rest, hl, hlen, hmodify⟩ :=
    List.exists_of_modify f (show l.length - 1 < l.length by omega)
  have hrest : rest = [] := by
    have hcount := congrArg List.length hl
    rw [List.length_append, List.length_cons] at hcount
    exact List.length_eq_zero_iff.mp (by omega)
  subst hrest
  exact ⟨init, a, hl, hmodify⟩

theorem totalLeft_setPackEol (p : Pack (Item V)) : (setPackEol p).totalLeft = p.totalLeft := by
  rw [setPackEol]
  split <;> rfl

theorem records_setPackEol (p : Pack (Item V)) :
    (setPackEol p).items.map Item.record = p.items.map Item.record := by
  rw [setPackEol]
  split
  · exact Collect.map_modify fun _ => rfl
  · rfl

theorem eols_setPackEol {p : Pack (Item V)} (h : p.items ≠ [])
    (heol : ∀ item ∈ p.items, item.eol = false) :
    (setPackEol p).items.map Item.eol =
      if p.totalLeft = 0 then lastOnly p.items.length
      else List.replicate p.items.length false := by
  have hfalse : ∀ items : List (Item V), (∀ item ∈ items, item.eol = false) →
      items.map Item.eol = List.replicate items.length false := fun items hitems =>
    List.eq_replicate_iff.mpr ⟨List.length_map _, List.forall_mem_map.mpr hitems⟩
  rw [setPackEol]
  split
  · obtain ⟨init, item, hitems, hmodify⟩ :=
      modify_last (fun item : Item V => { item with eol := true }) h
    show (p.items.modify _ _).map _ = _
    rw [hmodify, hitems, List.map_append, List.length_append,
      hfalse init fun item hitem => heol item (hitems ▸ List.mem_append_left _ hitem)]
    rfl
  · exact hfalse _ heol

/-- Only the last of all items is marked as the end. -/
theorem eols_lastOnly {ps : List (Pack (Item V))} (hne : ∀ p ∈ ps, p.items ≠ [])
    (heol : ∀ p ∈ ps, ∀ item ∈ p.items, item.eol = false) (h : Counted ps) :
    (ps.flatMap fun p => (setPackEol p).items.map Item.eol) =
      lastOnly (ps.flatMap Pack.items).length := by
  induction ps with
  | nil => rfl
  | cons p ps ih =>
    obtain ⟨hp, hps⟩ := List.forall_mem_cons.mp hne
    obtain ⟨hpeol, hpseol⟩ := List.forall_mem_cons.mp heol
    have hrest := ih hps hpseol h.2
    rw [List.flatMap_cons, List.flatMap_cons, List.length_append, eols_setPackEol hp hpeol, hrest,
      h.1]
    rcases Nat.eq_zero_or_pos (ps.flatMap Pack.items).length with hzero | hpos
    · rw [if_pos hzero, hzero]
      exact List.append_nil _
    · rw [if_neg (Nat.ne_of_gt hpos), replicate_append_lastOnly _ hpos]

/-! ## The messages of a data type -/

/-- The rounds of a data type, with the messages in which they are sent. -/
def Delivers (k : Remote (Channel V) (Message V)) (channels : List (Channel V))
    (msgs : List (Message V)) (rest : List (Channel V)) : Prop :=
  ∃ ds, Rounds k.offer channels ds rest ∧ msgs = ds.map k.send

/-- Packs are counted where their messages are. -/
theorem leftCounted_map {β : Type} {send : Pack β → Message V}
    (htotal : ∀ p, (send p).totalLeft = some p.totalLeft) {ps : List (Pack β)}
    (hrecords : ∀ p ∈ ps, (send p).records.length = p.items.length) :
    LeftCounted (ps.map send) ↔ Counted ps := by
  have hlength : ∀ {qs : List (Pack β)}, (∀ q ∈ qs, (send q).records.length = q.items.length) →
      ((qs.map send).flatMap Message.records).length = (qs.flatMap Pack.items).length := by
    intro qs
    induction qs with
    | nil => exact fun _ => rfl
    | cons q qs ih =>
      intro hqs
      obtain ⟨hq, hqs⟩ := List.forall_mem_cons.mp hqs
      rw [List.map_cons, List.flatMap_cons, List.flatMap_cons, List.length_append,
        List.length_append, hq, ih hqs]
  induction ps with
  | nil => exact Iff.rfl
  | cons p ps ih =>
    obtain ⟨hp, hps⟩ := List.forall_mem_cons.mp hrecords
    have hrest : LeftCounted (ps.map send) ↔ Counted ps := ih hps
    rw [List.map_cons, LeftCounted, Counted, htotal, hrest, hlength hps]
    apply and_congr_left'
    exact ⟨fun h => h _ rfl, fun h n hn => (Option.some.inj hn).symm.trans h⟩

/-- What is transmitted in the packs is what they hold. -/
theorem records_map {β : Type} {send : Pack β → Message V} {f : β → Record V}
    {ps : List (Pack β)} (hrecords : ∀ p ∈ ps, (send p).records = p.items.map f) :
    (ps.map send).flatMap Message.records = (ps.flatMap Pack.items).map f := by
  induction ps with
  | nil => rfl
  | cons p ps ih =>
    obtain ⟨hp, hps⟩ := List.forall_mem_cons.mp hrecords
    rw [List.map_cons, List.flatMap_cons, List.flatMap_cons, List.map_append, hp, ih hps]

/-- Channels and values in packs. -/
theorem delivers_packs (version : Nat) {maxCount : Nat} (hmax : 0 < maxCount) (t : DataType)
    (call : Pack (Item V) → Message V)
    (hrecords : ∀ p, (call p).records = p.items.map Item.record)
    (htotal : ∀ p, (call p).totalLeft = some p.totalLeft)
    (heols : ∀ p, (call p).eols = p.items.map Item.eol) (hcount : maxcount t = maxCount)
    (hdata : ∀ c : Channel V, c.dataFor version t = some c.protoGet.record)
    (channels : List (Channel V)) :
    ∃ msgs rest,
      Delivers ⟨_, getDatapackForRemote maxCount, fun p => call (setPackEol p)⟩ channels msgs rest ∧
        (∀ m ∈ msgs, ∃ p, m = call p) ∧ Synchronised version t channels msgs := by
  obtain ⟨ps, rest, hrounds, hps, -⟩ :=
    @rounds_put _ _ maxCount (fun c : Channel V => some c.protoGet) hmax channels
  have hoffer : (Remote.mk (Pack (Item V)) (getDatapackForRemote maxCount)
      fun p => call (setPackEol p)).offer = put maxCount fun c : Channel V => some c.protoGet := by
    funext c data
    show ((getDatapackForRemote maxCount c data).result,
      (getDatapackForRemote maxCount c data).data) = _
    rw [getDatapackForRemote_eq hmax]
  have hsolid : Counted ps :=
    hps.counted.mpr (List.pairwise_of_forall fun _ _ _ => rfl)
  have heol : ∀ p ∈ ps, ∀ item ∈ p.items, item.eol = false := by
    intro p hp item hitem
    have hmem : item ∈ ps.flatMap Pack.items := List.mem_flatMap.mpr ⟨p, hp, hitem⟩
    rw [hps.items] at hmem
    obtain ⟨c, -, hc⟩ := List.mem_filterMap.mp hmem
    rw [← Option.some.inj hc]
    rfl
  have hrecord : ∀ p ∈ ps, (call (setPackEol p)).records = p.items.map Item.record :=
    fun p _ => (hrecords _).trans (records_setPackEol p)
  have hlength : ∀ p ∈ ps, (call (setPackEol p)).records.length = p.items.length := by
    intro p hp
    rw [hrecord p hp, List.length_map]
  have hall := records_map hrecord
  refine ⟨_, rest, ⟨ps, hoffer ▸ hrounds, rfl⟩, ?_, ?_, ?_, ?_, ?_⟩
  · exact List.forall_mem_map.mpr fun p _ => ⟨setPackEol p, rfl⟩
  · show (ps.map fun p => call (setPackEol p)).flatMap Message.records = _
    rw [hall, hps.items, List.map_filterMap]
    exact congrArg (channels.filterMap ·) (funext fun c => (hdata c).symm)
  · refine List.forall_mem_map.mpr fun p hp => ?_
    rw [hlength p hp, hcount]
    exact hps.items_le p hp
  · refine (leftCounted_map (fun p => ?_) hlength).mpr hsolid
    rw [htotal, totalLeft_setPackEol]
  · intro _
    rw [hall, List.length_map, List.flatMap_map, ← eols_lastOnly hps.items_ne heol hsolid]
    exact congrArg (ps.flatMap ·) (funext fun p => heols _)

/-- Each value takes the place of the one before it. -/
theorem offerAll_value (call : Item V → Message V) (channels : List (Channel V))
    (data : Option (Item V)) :
    offerAll (Remote.mk (Item V) getValueForRemote call).offer channels data =
      ⟨!channels.isEmpty, [], (channels.getLast?.map Channel.protoGet).or data⟩ := by
  induction channels generalizing data with
  | nil => rfl
  | cons c channels ih =>
    rw [offerAll, ih]
    cases channels with
    | nil => rfl
    | cons d channels =>
      rw [List.getLast?_cons_cons, List.getLast?_eq_some_getLast (List.cons_ne_nil d channels)]
      rfl

/-- Values in single records: of all the channels that are marked the last one is sent, and its
record does not end the list. -/
theorem delivers_value {version : Nat} (hversion : ¬ version ≥ 9) (channels : List (Channel V)) :
    ∃ msgs, Delivers (remote version .data2) channels msgs [] ∧
      (∀ m ∈ msgs, m.dataType = .data2) ∧
      (Synchronised version .data2 channels msgs ↔ channels = []) ∧
      (Transmitted version .data2 channels msgs ↔ channels.length ≤ 1) := by
  rw [remote, if_neg hversion]
  cases channels with
  | nil =>
    exact ⟨[], ⟨[], .done rfl, rfl⟩, fun m hm => (by cases hm),
      iff_of_true ⟨rfl, fun m hm => (by cases hm), trivial, fun _ => rfl⟩ rfl,
      iff_of_true rfl (Nat.zero_le 1)⟩
  | cons c channels =>
    have hround := offerAll_value .channelValueUpdate (c :: channels) none
    rw [List.getLast?_eq_some_getLast (List.cons_ne_nil c channels)] at hround
    refine ⟨_, ⟨_, .again hround (.done rfl), rfl⟩, List.forall_mem_singleton.mpr rfl, ?_, ?_⟩
    · refine iff_of_false (fun h => ?_) (List.cons_ne_nil c channels)
      have hended := h.ended (by decide)
      cases hended
    · constructor
      · intro h
        have hcount : 1 = ((c :: channels).filterMap (Channel.dataFor version .data2)).length :=
          congrArg List.length h
        have hall : ((c :: channels).filterMap (Channel.dataFor version .data2)).length =
            (c :: channels).length := List.filterMap_length_eq_length.mpr fun _ _ => rfl
        omega
      · intro h
        rw [List.length_cons] at h
        obtain rfl : channels = [] := List.length_eq_zero_iff.mp (by omega)
        rfl

/-- Extended values in packs. -/
theorem delivers_extendedValues {version : Nat} (hversion : version ≥ 10)
    (channels : List (Channel V)) :
    ∃ msgs rest, Delivers (remote version .data3) channels msgs rest ∧
      (∀ m ∈ msgs, m.dataType = .data3) ∧
      (Synchronised version .data3 channels msgs ↔ channels.Pairwise fun c d =>
        (c.protoGetExtendedValue version).isSome → (d.protoGetExtendedValue version).isSome) ∧
      Transmitted version .data3 channels msgs := by
  obtain ⟨ps, rest, hrounds, hps, -⟩ :=
    @rounds_put (Channel V) _ channelextendedvaluePackMaxcount
      (Channel.protoGetExtendedValue version) (by decide) channels
  have hoffer : (remote (V := V) version .data3).offer =
      put channelextendedvaluePackMaxcount (Channel.protoGetExtendedValue version) := by
    funext c data
    exact congrArg (fun f : Fetch (Pack Cev) => (f.result, f.data))
      ((if_pos hversion).trans (getEvDatapackForRemote_eq version c data))
  have hrecord : ∀ p ∈ ps, (Message.channelextendedvaluePackUpdate (V := V) p).records =
      p.items.map .extendedValue := fun p _ => rfl
  have hlength : ∀ p ∈ ps, (Message.channelextendedvaluePackUpdate (V := V) p).records.length =
      p.items.length := fun p _ => List.length_map _
  have hcounted : LeftCounted (ps.map (Message.channelextendedvaluePackUpdate (V := V))) ↔
      Counted ps := leftCounted_map (fun p => rfl) hlength
  have htransmitted : Transmitted version .data3 channels
      (ps.map Message.channelextendedvaluePackUpdate) := by
    rw [Transmitted, records_map hrecord, hps.items, List.map_filterMap]
    refine congrArg (channels.filterMap ·) (funext fun c => ?_)
    exact (if_pos hversion).symm
  refine ⟨_, rest, ⟨ps, hoffer ▸ hrounds, rfl⟩, List.forall_mem_map.mpr fun p _ => rfl, ?_,
    htransmitted⟩
  constructor
  · intro h
    exact hps.counted.mp (hcounted.mp h.leftCounted)
  · intro h
    refine ⟨htransmitted, ?_, hcounted.mpr (hps.counted.mpr h), fun h => absurd rfl h⟩
    refine List.forall_mem_map.mpr fun p hp => ?_
    show (List.map _ p.items).length ≤ _
    rw [List.length_map]
    exact hps.items_le p hp

/-- A client of a version below 10 is sent no extended value. -/
theorem delivers_none {version : Nat} (hversion : ¬ version ≥ 10) (channels : List (Channel V)) :
    Delivers (remote version .data3) channels [] channels := by
  have hround : ∀ data, offerAll (remote (V := V) version .data3).offer channels data =
      ⟨false, channels, data⟩ := by
    induction channels with
    | nil => exact fun _ => rfl
    | cons c channels ih =>
      intro data
      have hoffer : (remote version .data3).offer c data = (false, data) :=
        congrArg (fun f : Fetch (Pack Cev) => (f.result, f.data)) (if_neg hversion)
      rw [offerAll, hoffer]
      simp only [ih, Bool.false_or, Bool.false_eq_true, if_false]
  exact ⟨[], .done (hround none), rfl⟩

/-! ## All data types -/

/-- For which channels the messages of a data type are as they have to be. -/
def WholeFor (version : Nat) (t : DataType) (channels : List (Channel V)) : Prop :=
  match t with
  | .data1 => True
  | .data2 => version < 9 → channels = []
  | .data3 => version ≥ 10 → channels.Pairwise fun c d =>
      (c.protoGetExtendedValue version).isSome → (d.protoGetExtendedValue version).isSome

/-- For which channels each is told of. -/
def TransmittedFor (version : Nat) (t : DataType) (channels : List (Channel V)) : Prop :=
  t = .data2 → version < 9 → channels.length ≤ 1

theorem delivers_type (version : Nat) (t : DataType) (channels : List (Channel V)) :
    ∃ msgs rest, Delivers (remote version t) channels msgs rest ∧
      (∀ m ∈ msgs, m.dataType = t) ∧
      (Synchronised version t channels msgs ↔ WholeFor version t channels) ∧
      (Transmitted version t channels msgs ↔ TransmittedFor version t channels) := by
  have hpos : 0 < 20 := by decide
  cases t with
  | data1 =>
    obtain ⟨msgs, rest, hdelivers, hcalls, hsync⟩ := delivers_packs version hpos .data1
      (.channelpackUpdate (channelLayout version)) (fun _ => rfl) (fun _ => rfl) (fun _ => rfl) rfl
      (fun _ => rfl) channels
    refine ⟨msgs, rest, hdelivers, fun m hm => ?_, iff_of_true hsync trivial,
      iff_of_true hsync.transmitted fun h => (by cases h)⟩
    obtain ⟨p, rfl⟩ := hcalls m hm
    rfl
  | data2 =>
    by_cases hversion : version ≥ 9
    · obtain ⟨msgs, rest, hdelivers, hcalls, hsync⟩ := delivers_packs version hpos .data2
        (.channelvaluePackUpdate (valueLayout version)) (fun _ => rfl) (fun _ => rfl)
        (fun _ => rfl) rfl (fun _ => rfl) channels
      refine ⟨msgs, rest, ?_, fun m hm => ?_, iff_of_true hsync fun h => by omega,
        iff_of_true hsync.transmitted fun _ h => by omega⟩
      · rw [remote, if_pos hversion]
        exact hdelivers
      · obtain ⟨p, rfl⟩ := hcalls m hm
        rfl
    · have hlt : version < 9 := Nat.lt_of_not_le hversion
      obtain ⟨msgs, hdelivers, htype, hsync, htransmitted⟩ := delivers_value hversion channels
      exact ⟨msgs, [], hdelivers, htype, hsync.trans ⟨fun h _ => h, fun h => h hlt⟩,
        htransmitted.trans ⟨fun h _ _ => h, fun h => h rfl hlt⟩⟩
  | data3 =>
    by_cases hversion : version ≥ 10
    · obtain ⟨msgs, rest, hdelivers, htype, hsync, htransmitted⟩ :=
        delivers_extendedValues hversion channels
      exact ⟨msgs, rest, hdelivers, htype, hsync.trans ⟨fun h _ => h, fun h => h hversion⟩,
        iff_of_true htransmitted fun h => (by cases h)⟩
    · have htransmitted : Transmitted version .data3 channels [] :=
        (List.filterMap_eq_nil_iff.mpr fun c _ => if_neg hversion).symm
      exact ⟨[], channels, delivers_none hversion channels, fun m hm => (by cases hm),
        iff_of_true ⟨htransmitted, fun m hm => (by cases hm), trivial, fun _ => rfl⟩
          fun h => absurd h hversion,
        iff_of_true htransmitted fun h => (by cases h)⟩

theorem checkMore_remote (version : Nat) (t : DataType) :
    ∀ (c : Channel V) data, ((remote version t).getData c data).checkMore = true := by
  have hpack : ∀ (c : Channel V) data, (getDatapackForRemote 20 c data).checkMore = true :=
    fun c data => congrArg Fetch.checkMore (getDatapackForRemote_eq (by decide) c data)
  cases t with
  | data1 => exact hpack
  | data2 =>
    by_cases hversion : version ≥ 9
    · rw [remote, if_pos hversion]
      exact hpack
    · rw [remote, if_neg hversion]
      exact fun _ _ => rfl
  | data3 =>
    intro c data
    show (if version ≥ 10 then _ else _ : Fetch (Pack Cev)).checkMore = true
    split
    · exact congrArg Fetch.checkMore (getEvDatapackForRemote_eq version c data)
    · rfl

theorem sent_of_type {t u : DataType} {msgs : List (Message V)}
    (h : ∀ m ∈ msgs, m.dataType = u) : sent t msgs = if u = t then msgs else [] := by
  rw [sent]
  split
  · rename_i heq
    exact List.filter_eq_self.mpr fun m hm => decide_eq_true ((h m hm).trans heq)
  · rename_i hne
    refine List.filter_eq_nil_iff.mpr fun m hm => ?_
    rw [h m hm, decide_eq_false hne]
    exact Bool.false_ne_true

/-- The messages of the data types, one after another. -/
theorem sent_flatMap {msgs : DataType → List (Message V)}
    (h : ∀ t, ∀ m ∈ msgs t, m.dataType = t) (t : DataType) :
    sent t (availableDataTypesForRemote.flatMap msgs) = msgs t := by
  have happend : sent t (availableDataTypesForRemote.flatMap msgs) =
      sent t (msgs .data1) ++ (sent t (msgs .data2) ++ (sent t (msgs .data3) ++ [])) := by
    rw [sent, availableDataTypesForRemote, List.flatMap_cons, List.flatMap_cons,
      List.flatMap_cons, List.filter_append, List.filter_append, List.filter_append]
    rfl
  rw [happend, sent_of_type (h .data1), sent_of_type (h .data2), sent_of_type (h .data3)]
  cases t <;> simp

/-- The calls of `remote_update` end with false. -/
theorem updates_end (version : Nat) (objs : List (Obj DataType (Channel V))) :
    ∃ n msgs objs', (∀ fuel, updates version (n + fuel) objs = some (msgs, objs')) ∧
      ∀ t, (Synchronised version t (marked t objs) (sent t msgs) ↔
          WholeFor version t (marked t objs)) ∧
        (Transmitted version t (marked t objs) (sent t msgs) ↔
          TransmittedFor version t (marked t objs)) := by
  choose msgs rest hdelivers htype hsync using
    fun t => delivers_type version t (marked t objs)
  choose ds hrounds hmsgs using hdelivers
  obtain ⟨n, objs', -, -, hrun⟩ := updates_spec (checkMore_remote version)
    (show ([] ++ availableDataTypesForRemote).Nodup by decide)
    (fun t ht => (by cases ht)) (fun t _ => hrounds t)
  have hall : (availableDataTypesForRemote.flatMap fun t => (ds t).map (remote version t).send) =
      availableDataTypesForRemote.flatMap msgs :=
    congrArg (availableDataTypesForRemote.flatMap ·) (funext fun t => (hmsgs t).symm)
  refine ⟨n, availableDataTypesForRemote.flatMap msgs, objs', fun fuel => ?_, fun t => ?_⟩
  · rw [← hall]
    exact hrun fuel
  · rw [sent_flatMap htype]
    exact hsync t

/-- **Synchronising ends**, and when it has done all it has to. A client of a version below 9 is
sent only the last of the values that are marked, in a record without `EOL`. A channel without an
extended value is counted in `total_left` if it comes after one that has one. -/
theorem synchronised_iff (version : Nat) (objs : List (Obj DataType (Channel V))) :
    ∃ n msgs objs', (∀ fuel, updates version (n + fuel) objs = some (msgs, objs')) ∧
      ((∀ t, Synchronised version t (marked t objs) (sent t msgs)) ↔ Whole version objs) ∧
      ((∀ t, Transmitted version t (marked t objs) (sent t msgs)) ↔
        (version < 9 → (marked .data2 objs).length ≤ 1)) := by
  obtain ⟨n, msgs, objs', hrun, hends⟩ := updates_end version objs
  refine ⟨n, msgs, objs', hrun, ?_, ?_⟩
  · rw [forall_congr' fun t => (hends t).1]
    constructor
    · intro h
      exact ⟨h .data2, h .data3⟩
    · rintro ⟨hvalues, hextended⟩ (_ | _ | _)
      · trivial
      · exact hvalues
      · exact hextended
  · rw [forall_congr' fun t => (hends t).2]
    constructor
    · intro h
      exact h .data2 rfl
    · rintro h t rfl
      exact h

/-- Two channels with their values marked. -/
def twoValues : List (Obj DataType (Channel Nat)) :=
  [⟨⟨1, 10, none, none⟩, fun t => t = .data2⟩, ⟨⟨2, 20, none, none⟩, fun t => t = .data2⟩]

/-- A client of version 8 is told of the second channel only, and nothing stays marked. -/
theorem value_lost : ∃ objs',
    updates 8 2 twoValues = some ([.channelValueUpdate ⟨false, 2, 20⟩], objs') ∧
      (∀ t, marked t objs' = []) ∧
      ¬ Synchronised 8 .data2 (marked .data2 twoValues)
        (sent .data2 [.channelValueUpdate ⟨false, 2, 20⟩]) := by
  refine ⟨_, rfl, fun t => by cases t <;> rfl, fun h => ?_⟩
  have hcount : 1 = 2 := congrArg List.length h.transmitted
  cases hcount

end Client.Channels
