import SuplaCore.Channel.SensorConfig
import SuplaCore.Device.Proof.JsonField

/-!
# Sensor lists are normalised

The loops of the two `get_config` fill a table from the front (`Container.readSensors_spec`,
`Valve.readSensors_spec`). A valve compares bytes, so no channel comes twice; a container compares
the number of an item with the bytes stored, so that a number that is no byte takes a second place
for its byte. What `set_config` stores is one item for each channel (`Container.sensors_written`,
`Valve.sensors_written`), and it is read back unless a second member of the same name comes to the
front when the first one is replaced (`Kept`).
-/

namespace Channel

open Json Device.JsonConfig Slots

variable {D : Type} [Arith D]

/-! ## Numbers and bytes -/

/-- A number that is the value of a byte. -/
def isByte (d : D) : Bool := sameNumber (toUInt8 d) d

theorem toUInt8_of_sameNumber {no : UInt8} {d : D} (h : sameNumber no d = true) :
    toUInt8 d = no := by
  have hlt := no.toNat_lt
  obtain ⟨n, hwhole, hlo, hhi⟩ := Number.between_whole _ _ _ h
  rw [toUInt8, convert_of_whole hwhole (by omega) (by omega), show n.toNat = no.toNat by omega,
    UInt8.ofNat_toNat]

theorem sameNumber_eq (no : UInt8) (d : D) :
    sameNumber no d = (isByte d && no == toUInt8 d) := by
  cases h : sameNumber no d with
  | true =>
    have hbyte := toUInt8_of_sameNumber h
    simp [isByte, hbyte, h]
  | false =>
    by_cases hno : no = toUInt8 d
    · simp [isByte, ← hno, h]
    · simp [hno]

theorem sameNumber_ofInt (no x : UInt8) :
    sameNumber no (Number.ofInt x.toNat : D) = (x == no) := by
  have hx := x.toNat_lt
  rw [sameNumber, Number.between_ofInt _ _ _ (by omega) (by omega), Bool.eq_iff_iff]
  rw [decide_eq_true_iff, beq_iff_eq, ← UInt8.toNat_inj]
  omega

/-! ## Reading the sensors of a container -/

namespace Container

/-- How an item that is read as a sensor goes into the array. -/
def rule : Rule TContainer_SensorInfo (Node D × D) UInt8 where
  key info := info.channelNo
  keyOf x := toUInt8 x.2
  sharp x := isByte x.2
  again x info := readInto x.1 x.2 info
  new x := readInto x.1 x.2 {}
  key_again _ _ _ := rfl
  key_new _ := rfl

/-- The items that are read as sensors, with their numbers. -/
def accepted (items : List (Node D)) : List (Node D × D) :=
  items.filterMap fun item => (channelNoOf item).map fun d => (item, d)

/-- The array with the items read into it. -/
def sensorsOf (items : List (Node D)) : Vector TContainer_SensorInfo 10 :=
  pad {} 10 (fill rule 10 [] (accepted items))

def isSet (info : TContainer_SensorInfo) : Bool := info.isSet ≠ 0

theorem findIdx_rule {l : List TContainer_SensorInfo} (hset : ∀ info ∈ l, isSet info = true)
    (hlen : l.length ≤ 10) (item : Node D) (d : D) :
    (pad {} 10 l).toList.findIdx?
        (fun info => info.isSet ≠ 0 && sameNumber info.channelNo d) =
      l.findIdx? (rule.hit (item, d)) := by
  rw [findIdx_pad rfl hlen]
  apply findIdx_congr
  intro info hinfo
  have h : decide (info.isSet ≠ 0) = true := hset info hinfo
  rw [h, Bool.true_and, sameNumber_eq]
  rfl

/-- **The loop keeps to the array and fills it from the front.** -/
theorem readSensors_spec : ∀ (items : List (Node D)) (l : List TContainer_SensorInfo)
    (result : Bool), l.length < 10 → (∀ info ∈ l, isSet info = true) →
    (readSensors items l.length result (pad {} 10 l)).map Prod.snd =
      some (pad {} 10 (fill rule 10 l (accepted items)))
  | [], l, result, _, _ => rfl
  | item :: items, l, result, hlen, hset => by
    unfold readSensors
    cases hno : channelNoOf item with
    | none =>
      have hskip : accepted (item :: items) = accepted items := by simp [accepted, hno]
      rw [hskip]
      exact readSensors_spec items l result hlen hset
    | some d =>
      have htake : accepted (item :: items) = (item, d) :: accepted items := by
        simp [accepted, hno]
      have hstep := fill_forall rule (N := 10) (P := fun info => isSet info = true)
        (fun _ _ _ => rfl) (fun _ => rfl) [(item, d)] l hset
      rw [htake]
      unfold fill at hstep ⊢
      rw [if_pos hlen] at hstep ⊢
      dsimp only
      rw [findIdx_rule hset (by omega) item d]
      unfold fill absorb at hstep
      unfold absorb
      cases hfind : l.findIdx? (rule.hit (item, d)) with
      | some i =>
        obtain ⟨hi, -, -⟩ := List.findIdx?_eq_some_iff_getElem.mp hfind
        rw [hfind] at hstep
        dsimp only at hstep ⊢
        rw [Option.getD_some, write_pad_inside _ hi (by omega)]
        have hnext := readSensors_spec items (l.modify i (rule.again (item, d))) true
          (by rw [List.length_modify]; exact hlen) hstep
        rw [List.length_modify] at hnext
        exact hnext
      | none =>
        rw [hfind] at hstep
        dsimp only at hstep ⊢
        rw [Option.getD_none, write_pad_behind _ hlen]
        dsimp only
        rw [Option.isSome_none, if_neg Bool.false_ne_true]
        by_cases hfull : l.length + 1 ≥ 10
        · rw [if_pos hfull, fill_full rule]
          · rfl
          · rw [List.length_append, List.length_singleton]
            exact hfull
        · rw [if_neg hfull]
          have hnext := readSensors_spec items (l ++ [rule.new (item, d)]) true
            (by rw [List.length_append, List.length_singleton]; omega) hstep
          rw [List.length_append, List.length_singleton] at hnext
          exact hnext

/-- The channels of the set entries. -/
def channels (infos : Vector TContainer_SensorInfo 10) : List UInt8 :=
  (infos.toList.filter isSet).map TContainer_SensorInfo.channelNo

theorem fill_isSet (items : List (Node D)) :
    ∀ info ∈ fill rule 10 [] (accepted items), isSet info = true :=
  fill_forall rule (P := fun info => isSet info = true) (fun _ _ _ => rfl) (fun _ => rfl) _ []
    fun _ h => absurd h List.not_mem_nil

theorem sensorsOf_front (items : List (Node D)) : Front isSet (sensorsOf items) :=
  front_pad rfl (fill_isSet items) (fill_length_le rule _ _ (Nat.zero_le 10))

/-- **No channel comes twice exactly if no number that is no byte collides.** -/
theorem sensorsOf_nodup_iff (items : List (Node D)) :
    (channels (sensorsOf items)).Nodup ↔ ¬ Collides rule 10 [] (accepted items) := by
  have hfilter : (sensorsOf items).toList.filter isSet = fill rule 10 [] (accepted items) :=
    filter_pad rfl (fill_isSet items) (fill_length_le rule _ _ (Nat.zero_le 10))
  rw [channels, hfilter]
  exact fill_nodup_iff rule (accepted items) [] List.nodup_nil

end Container

/-! ## Reading the sensors of a valve -/

namespace Valve

/-- How a number goes into the array. -/
def rule : Rule TValve_SensorInfo D UInt8 where
  key info := info.channelNo
  keyOf d := toUInt8 d
  sharp _ := true
  again _ info := info
  new d := { isSet := 1, channelNo := toUInt8 d }
  key_again _ _ h := h
  key_new _ := rfl

/-- The numbers among the items. -/
def accepted (items : List (Node D)) : List D := items.filterMap fun item => numberOf (some item)

/-- The array with the items read into it. -/
def sensorsOf (items : List (Node D)) : Vector TValve_SensorInfo 20 :=
  pad {} 20 (fill rule 20 [] (accepted items))

def isSet (info : TValve_SensorInfo) : Bool := info.isSet ≠ 0

/-- **The loop keeps to the array and fills it from the front.** -/
theorem readSensors_spec : ∀ (items : List (Node D)) (l : List TValve_SensorInfo),
    l.length < 20 → (∀ info ∈ l, isSet info = true) →
    readSensors items l.length (pad {} 20 l) = some (pad {} 20 (fill rule 20 l (accepted items)))
  | [], l, _, _ => rfl
  | item :: items, l, hlen, hset => by
    unfold readSensors
    cases hno : numberOf (some item) with
    | none =>
      have hskip : accepted (item :: items) = accepted items := by simp [accepted, hno]
      rw [hskip]
      exact readSensors_spec items l hlen hset
    | some d =>
      have htake : accepted (item :: items) = d :: accepted items := by simp [accepted, hno]
      have hany : (pad {} 20 l).toList.any
          (fun info => info.isSet ≠ 0 && info.channelNo == toUInt8 d) =
            (l.findIdx? (rule.hit d)).isSome := by
        rw [any_pad rfl (by omega), List.findIdx?_isSome]
        rw [Bool.eq_iff_iff, List.any_eq_true, List.any_eq_true]
        refine exists_congr fun info => and_congr_right fun hinfo => ?_
        have h : decide (info.isSet ≠ 0) = true := hset info hinfo
        rw [h, Bool.true_and]
        rfl
      rw [htake]
      unfold fill absorb
      rw [if_pos hlen]
      dsimp only
      rw [hany]
      cases hfind : l.findIdx? (rule.hit d) with
      | some i =>
        dsimp only
        rw [Option.isSome_some, if_pos rfl, show l.modify i (rule.again d) = l from
          List.modify_id i l]
        exact readSensors_spec items l hlen hset
      | none =>
        dsimp only
        rw [Option.isSome_none, if_neg Bool.false_ne_true, write_pad_behind _ hlen]
        dsimp only
        have hlength : (l ++ [rule.new d]).length = l.length + 1 := by
          rw [List.length_append, List.length_singleton]
        by_cases hfull : l.length + 1 ≥ 20
        · rw [if_pos hfull, fill_full rule (by rw [hlength]; exact hfull)]
          rfl
        · rw [if_neg hfull, ← hlength]
          refine readSensors_spec items (l ++ [rule.new d]) (by omega) fun info hinfo => ?_
          rcases List.mem_append.mp hinfo with h | h
          · exact hset info h
          · rw [List.mem_singleton.mp h]
            rfl

/-- The channels of the set entries. -/
def channels (infos : Vector TValve_SensorInfo 20) : List UInt8 :=
  (infos.toList.filter isSet).map TValve_SensorInfo.channelNo

theorem fill_isSet (items : List (Node D)) :
    ∀ info ∈ fill rule 20 [] (accepted items), isSet info = true :=
  fill_forall rule (P := fun info => isSet info = true) (fun _ _ h => h) (fun _ => rfl) _ []
    fun _ h => absurd h List.not_mem_nil

theorem sensorsOf_front (items : List (Node D)) : Front isSet (sensorsOf items) :=
  front_pad rfl (fill_isSet items) (fill_length_le rule _ _ (Nat.zero_le 20))

/-- **No channel comes twice.** -/
theorem sensorsOf_nodup (items : List (Node D)) : (channels (sensorsOf items)).Nodup := by
  have hfilter : (sensorsOf items).toList.filter isSet = fill rule 20 [] (accepted items) :=
    filter_pad rfl (fill_isSet items) (fill_length_le rule _ _ (Nat.zero_le 20))
  rw [channels, hfilter, show TValve_SensorInfo.channelNo = (rule (D := D)).key from rfl,
    fill_nodup_iff rule (accepted items) [] List.nodup_nil]
  intro h
  obtain ⟨_, _, _, _, hsharp, _⟩ := h
  exact Bool.noConfusion hsharp

end Valve

/-! ## What is written -/

namespace Container

/-- A set entry as it is read back. -/
def readBack (info : TContainer_SensorInfo) : TContainer_SensorInfo :=
  { fillLevel := if info.fillLevel ≤ 100 then info.fillLevel else 0
    isSet := 1
    channelNo := info.channelNo }

/-- The set sensors, the last one for each channel, without fill levels that are no percentage. -/
def reduced (infos : Vector TContainer_SensorInfo 10) : List TContainer_SensorInfo :=
  (lastPer TContainer_SensorInfo.channelNo (infos.toList.filter isSet)).map readBack

/-- The sensors reduced and moved to the front. -/
def normal (infos : Vector TContainer_SensorInfo 10) : Vector TContainer_SensorInfo 10 :=
  pad {} 10 (reduced infos)

theorem length_reduced_le (infos : Vector TContainer_SensorInfo 10) :
    (reduced infos).length ≤ 10 := by
  have h1 := lastPer_length_le TContainer_SensorInfo.channelNo (infos.toList.filter isSet)
  have h2 := List.length_filter_le isSet infos.toList
  rw [Vector.length_toList] at h2
  rw [reduced, List.length_map]
  omega

theorem normal_normal (infos : Vector TContainer_SensorInfo 10) :
    normal (normal infos) = normal infos := by
  have hset : ∀ info ∈ reduced infos, isSet info = true := by
    intro info h
    obtain ⟨info', -, rfl⟩ := List.mem_map.mp h
    rfl
  have hkeys : ((reduced infos).map TContainer_SensorInfo.channelNo).Nodup := by
    rw [reduced, List.map_map]
    exact lastPer_nodup TContainer_SensorInfo.channelNo _
  have htwice : ∀ info : TContainer_SensorInfo, readBack (readBack info) = readBack info := by
    intro info
    by_cases h : info.fillLevel ≤ 100
    · simp [readBack, h]
    · simp [readBack, h]
  have hfilter : (normal infos).toList.filter isSet = reduced infos :=
    filter_pad rfl hset (length_reduced_le infos)
  rw [normal, reduced, hfilter, lastPer_of_nodup hkeys, reduced, List.map_map,
    show readBack ∘ readBack = readBack from funext htwice]
  rfl

theorem channelNo_sensorNode (info : TContainer_SensorInfo) :
    getDouble (some (sensorNode info : Node D)) "channelNo" =
      some (Number.ofInt info.channelNo.toNat) := by
  unfold sensorNode getDouble
  rw [Option.bind_some, get_setItemValue_other _ _ (by decide),
    get_setItemValue_new _ (by decide) rfl]
  rfl

theorem fillLevel_sensorNode (info : TContainer_SensorInfo) :
    getDouble (some (sensorNode info : Node D)) "fillLevel" =
      if info.fillLevel ≤ 100 then some (Number.ofInt info.fillLevel.toNat) else none := by
  unfold sensorNode getDouble
  rw [Option.bind_some, get_setItemValue_new _ (by decide)]
  · split
    · rfl
    · rfl
  · rw [get_setItemValue_other _ _ (by decide)]
    rfl

theorem channelNoOf_sensorNode (info : TContainer_SensorInfo) :
    channelNoOf (sensorNode info : Node D) = some (Number.ofInt info.channelNo.toNat) := by
  have hlt := info.channelNo.toNat_lt
  have hkind : (sensorNode info : Node D).kind.sameType .object = true := by
    unfold sensorNode
    split
    · rfl
    · rfl
  have hnonneg : Arith.nonneg (Number.ofInt info.channelNo.toNat : D) = true := by
    rw [Arith.nonneg_ofInt _ (by omega) (by omega)]
    exact decide_eq_true (by omega)
  rw [channelNoOf, if_pos hkind, channelNo_sensorNode, Option.filter_some_pos hnonneg]

theorem new_sensorNode (info : TContainer_SensorInfo) :
    (rule (D := D)).new (sensorNode info, Number.ofInt info.channelNo.toNat) = readBack info := by
  show readInto _ _ _ = _
  unfold readInto readBack
  rw [fillLevel_sensorNode]
  by_cases h : info.fillLevel ≤ 100
  · have hle : info.fillLevel.toNat ≤ 100 := h
    rw [if_pos h, if_pos h, Option.filter_some_pos
      (between_ofInt_of_le (by omega) (by omega) (by decide) (by decide))]
    simp
  · rw [if_neg h, if_neg h]
    simp

/-- One item for each channel, in the order of the last entries of the channels. -/
theorem sensors_written (infos : List TContainer_SensorInfo) :
    infos.foldl addSensor ([] : List (Node D)) =
      (lastPer TContainer_SensorInfo.channelNo (infos.filter isSet)).map sensorNode := by
  induction infos using List.reverseRecOn with
  | nil => rfl
  | append_singleton infos info ih =>
    rw [List.foldl_append, ih, List.filter_append, List.foldl_cons, List.foldl_nil, addSensor]
    by_cases h : info.isSet = 0
    · rw [if_neg (by simp [h]), List.filter_cons_of_neg (by simp [isSet, h]), List.filter_nil,
        List.append_nil]
    · rw [if_pos h, List.filter_cons_of_pos (by simp [isSet, h]), List.filter_nil,
        lastPer_concat, List.map_append, List.eraseP_map]
      have hchannel : isOfChannel info.channelNo ∘ (sensorNode (D := D)) =
          fun b => b.channelNo == info.channelNo := by
        funext b
        show isOfChannel info.channelNo (sensorNode b) = _
        rw [isOfChannel, channelNo_sensorNode, Option.any_some, sameNumber_ofInt]
      rw [hchannel, eraseP_key (lastPer_nodup _ _)]
      rfl

/-- The items written are read back. -/
theorem sensorsOf_written (infos : Vector TContainer_SensorInfo 10) :
    sensorsOf (infos.toList.foldl addSensor ([] : List (Node D))) = normal infos := by
  have haccepted : ∀ l : List TContainer_SensorInfo, accepted (l.map (sensorNode (D := D))) =
      l.map fun info => (sensorNode info, Number.ofInt info.channelNo.toNat) := by
    intro l
    unfold accepted
    rw [List.filterMap_map, ← List.filterMap_eq_map]
    refine List.filterMap_congr fun info _ => ?_
    show (channelNoOf (sensorNode info)).map _ = _
    rw [channelNoOf_sensorNode]
    rfl
  have hlength := length_reduced_le infos
  rw [reduced, List.length_map] at hlength
  unfold sensorsOf normal reduced
  rw [sensors_written, haccepted, fill_of_nodup]
  · rw [List.nil_append, List.map_map]
    congr 1
    exact List.map_congr_left fun info _ => new_sensorNode info
  · rw [List.map_nil, List.nil_append, List.map_map]
    have hkeys : (rule (D := D)).keyOf ∘ (fun info : TContainer_SensorInfo =>
        (sensorNode info, Number.ofInt info.channelNo.toNat)) =
          TContainer_SensorInfo.channelNo := by
      funext info
      exact toUInt8_ofInt info.channelNo
    rw [hkeys]
    exact lastPer_nodup _ _
  · rw [List.length_nil, List.length_map]
    omega

end Container

namespace Valve

/-- A set entry as it is read back. -/
def readBack (info : TValve_SensorInfo) : TValve_SensorInfo :=
  { isSet := 1, channelNo := info.channelNo }

/-- The set sensors, the first one for each channel. -/
def reduced (infos : Vector TValve_SensorInfo 20) : List TValve_SensorInfo :=
  (firstPer TValve_SensorInfo.channelNo (infos.toList.filter isSet)).map readBack

/-- The sensors reduced and moved to the front. -/
def normal (infos : Vector TValve_SensorInfo 20) : Vector TValve_SensorInfo 20 :=
  pad {} 20 (reduced infos)

theorem length_reduced_le (infos : Vector TValve_SensorInfo 20) :
    (reduced infos).length ≤ 20 := by
  have h1 := firstPer_length_le TValve_SensorInfo.channelNo (infos.toList.filter isSet)
  have h2 := List.length_filter_le isSet infos.toList
  rw [Vector.length_toList] at h2
  rw [reduced, List.length_map]
  omega

theorem normal_normal (infos : Vector TValve_SensorInfo 20) :
    normal (normal infos) = normal infos := by
  have hset : ∀ info ∈ reduced infos, isSet info = true := by
    intro info h
    obtain ⟨info', -, rfl⟩ := List.mem_map.mp h
    rfl
  have hkeys : ((reduced infos).map TValve_SensorInfo.channelNo).Nodup := by
    rw [reduced, List.map_map]
    exact firstPer_nodup TValve_SensorInfo.channelNo _
  have hfilter : (normal infos).toList.filter isSet = reduced infos :=
    filter_pad rfl hset (length_reduced_le infos)
  rw [normal, reduced, hfilter, firstPer_of_nodup hkeys, reduced, List.map_map]
  rfl

def sensorItem (info : TValve_SensorInfo) : Node D :=
  .leaf (.number (Number.ofInt info.channelNo.toNat))

/-- One item for each channel, in the order of the first entries of the channels. -/
theorem sensors_written : ∀ before infos : List TValve_SensorInfo,
    (firstPer TValve_SensorInfo.channelNo (before.filter isSet)).map (sensorItem (D := D)) ++
        sensorItems before infos =
      (firstPer TValve_SensorInfo.channelNo ((before ++ infos).filter isSet)).map sensorItem
  | before, [] => by rw [List.append_nil]; exact List.append_nil _
  | before, info :: infos => by
    have hnext := sensors_written (before ++ [info]) infos
    have hfound : (before.any fun b => b.isSet ≠ 0 && b.channelNo == info.channelNo) =
        decide (info.channelNo ∈ (before.filter isSet).map TValve_SensorInfo.channelNo) := by
      rw [Bool.eq_iff_iff, List.any_eq_true, decide_eq_true_iff, List.mem_map]
      constructor
      · intro h
        obtain ⟨b, hb, hboth⟩ := h
        rw [Bool.and_eq_true] at hboth
        exact ⟨b, List.mem_filter.mpr ⟨hb, hboth.1⟩, eq_of_beq hboth.2⟩
      · intro h
        obtain ⟨b, hb, heq⟩ := h
        obtain ⟨hmem, hset⟩ := List.mem_filter.mp hb
        exact ⟨b, hmem, by rw [Bool.and_eq_true]; exact ⟨hset, beq_iff_eq.mpr heq⟩⟩
    rw [List.append_assoc, List.singleton_append] at hnext
    rw [← hnext, sensorItems, hfound, List.filter_append]
    by_cases h : info.isSet = 0
    · rw [List.filter_cons_of_neg (by simp [isSet, h]), List.filter_nil, List.append_nil]
      simp [h]
    · rw [List.filter_cons_of_pos (by simp [isSet, h]), List.filter_nil, firstPer_concat]
      by_cases hmem : info.channelNo ∈ (before.filter isSet).map TValve_SensorInfo.channelNo
      · rw [if_pos hmem]
        simp [hmem]
      · rw [if_neg hmem, List.map_append, List.append_assoc]
        simp [h, hmem, sensorItem]

/-- The items written are read back. -/
theorem sensorsOf_written (infos : Vector TValve_SensorInfo 20) :
    sensorsOf (sensorItems [] infos.toList : List (Node D)) = normal infos := by
  have haccepted : ∀ l : List TValve_SensorInfo, accepted (l.map (sensorItem (D := D))) =
      l.map fun info => Number.ofInt info.channelNo.toNat := by
    intro l
    unfold accepted
    rw [List.filterMap_map, ← List.filterMap_eq_map]
    rfl
  have hwritten : (sensorItems [] infos.toList : List (Node D)) =
      (firstPer TValve_SensorInfo.channelNo (infos.toList.filter isSet)).map sensorItem :=
    sensors_written [] infos.toList
  have hlength := length_reduced_le infos
  rw [reduced, List.length_map] at hlength
  unfold sensorsOf normal reduced
  rw [hwritten, haccepted, fill_of_nodup]
  · rw [List.nil_append, List.map_map]
    congr 1
    refine List.map_congr_left fun info _ => ?_
    show (⟨1, toUInt8 (Number.ofInt info.channelNo.toNat : D)⟩ : TValve_SensorInfo) = readBack info
    rw [toUInt8_ofInt]
    rfl
  · rw [List.map_nil, List.nil_append, List.map_map]
    have hkeys : (rule (D := D)).keyOf ∘ (fun info : TValve_SensorInfo =>
        (Number.ofInt info.channelNo.toNat : D)) = TValve_SensorInfo.channelNo := by
      funext info
      exact toUInt8_ofInt info.channelNo
    rw [hkeys]
    exact firstPer_nodup _ _
  · rw [List.length_nil, List.length_map]
    omega

end Valve
/-! ## A container set over another -/

namespace Container

/-- A level as `get_config` has it from the member it stands in. -/
def levelOf (item : Option (Node D)) : UInt8 :=
  match numberOf item with
  | some d => if Number.between 0 100 d then
      UInt8.ofInt (convert (-2147483648) 2147483647 (Arith.succ d)) else 0
  | none => 0

def muteOf (item : Option (Node D)) : UInt8 := if boolOf item = some true then 1 else 0

def arrayOf (item : Option (Node D)) : Vector TContainer_SensorInfo 10 :=
  sensorsOf ((item.map Node.items).getD [])

def levelItem (level : UInt8) : Item D :=
  if (level.toNat : Int) > 0 ∧ ((100 : Int) = 0 ∨ (level.toNat : Int) - 1 ≤ 100) then
    .number (Number.ofInt (level.toNat - 1)) else .null

def muteItem (mute : UInt8) : Item D := if mute ≠ 0 then .true else .false

def sensorsItem (infos : Vector TContainer_SensorInfo 10) : Item D :=
  .object (.ofItems (infos.toList.foldl addSensor []))

/-- What `set_config` sets, in order. -/
def items (config : TChannelConfig_Container) : List (String × Item D) :=
  [("warningAboveLevel", levelItem config.warningAboveLevel),
    ("alarmAboveLevel", levelItem config.alarmAboveLevel),
    ("warningBelowLevel", levelItem config.warningBelowLevel),
    ("alarmBelowLevel", levelItem config.alarmBelowLevel),
    ("muteAlarmSoundWithoutAdditionalAuth", muteItem config.muteAlarmSoundWithoutAdditionalAuth),
    ("sensors", sensorsItem config.sensorInfo)]

def names : List String :=
  ["warningAboveLevel", "alarmAboveLevel", "warningBelowLevel", "alarmBelowLevel",
    "muteAlarmSoundWithoutAdditionalAuth", "sensors"]

theorem items_names (config : TChannelConfig_Container) :
    (items config : List (String × Item D)).map Prod.fst = names := rfl

theorem setConfig_eq (root : Node D) (config : TChannelConfig_Container) :
    setConfig root config = setItems root (items config) := by
  simp only [setConfig, setLevel, setItems, items, levelItem, muteItem, sensorsItem,
    List.foldl_cons, List.foldl_nil]

theorem ofInt_getLevel (root : Node D) (key : String) :
    UInt8.ofInt (getLevel root key 100).2 = levelOf (root.get key) := by
  unfold getLevel levelOf getDouble
  rw [Option.bind_some]
  cases numberOf (root.get key) with
  | none => rfl
  | some d =>
    dsimp only
    rw [if_neg (show ¬ (100 : Int) = 0 by decide)]
    split
    · rfl
    · rfl

theorem getConfig_eq (root : Node D) :
    ∃ result, getConfig root = some (result,
      { warningAboveLevel := levelOf (root.get "warningAboveLevel")
        alarmAboveLevel := levelOf (root.get "alarmAboveLevel")
        warningBelowLevel := levelOf (root.get "warningBelowLevel")
        alarmBelowLevel := levelOf (root.get "alarmBelowLevel")
        muteAlarmSoundWithoutAdditionalAuth :=
          muteOf (root.get "muteAlarmSoundWithoutAdditionalAuth")
        sensorInfo := arrayOf (root.get "sensors") }) := by
  unfold getConfig
  simp only [ofInt_getLevel]
  cases hget : root.get "sensors" with
  | none =>
    rw [show arrayOf (none : Option (Node D)) = Vector.replicate 10 {} from pad_nil]
    exact ⟨_, rfl⟩
  | some sensors =>
    have hloop := fun result => readSensors_spec sensors.items [] result (by decide)
      fun _ h => absurd h List.not_mem_nil
    rw [pad_nil] at hloop
    obtain ⟨r, hr, hsnd⟩ := Option.map_eq_some_iff.mp (hloop _)
    refine ⟨r.1, ?_⟩
    dsimp only
    rw [show (0 : Nat) = ([] : List TContainer_SensorInfo).length from rfl, hr, Option.map_some,
      hsnd]
    rfl

/-- A container configuration that can be stored. -/
structure Storable (config : TChannelConfig_Container) : Prop where
  warningAbove : config.warningAboveLevel ≤ 101
  alarmAbove : config.alarmAboveLevel ≤ 101
  warningBelow : config.warningBelowLevel ≤ 101
  alarmBelow : config.alarmBelowLevel ≤ 101
  mute : config.muteAlarmSoundWithoutAdditionalAuth ≤ 1

/-- The configuration with its sensors reduced. -/
def reduce (config : TChannelConfig_Container) : TChannelConfig_Container :=
  { config with sensorInfo := normal config.sensorInfo }

/-- The members of a previous configuration keep what is set. -/
structure Keeps (root : Node D) (config : TChannelConfig_Container) : Prop where
  warningAbove : Kept levelOf (levelItem config.warningAboveLevel) (root.named "warningAboveLevel")
  alarmAbove : Kept levelOf (levelItem config.alarmAboveLevel) (root.named "alarmAboveLevel")
  warningBelow : Kept levelOf (levelItem config.warningBelowLevel) (root.named "warningBelowLevel")
  alarmBelow : Kept levelOf (levelItem config.alarmBelowLevel) (root.named "alarmBelowLevel")
  mute : Kept muteOf (muteItem config.muteAlarmSoundWithoutAdditionalAuth)
    (root.named "muteAlarmSoundWithoutAdditionalAuth")
  sensors : Kept arrayOf (sensorsItem config.sensorInfo) (root.named "sensors")

theorem levelOf_levelItem {level : UInt8} (h : level ≤ 101) :
    levelOf (some (levelItem level : Item D).node) = level := by
  have hle : level.toNat ≤ 101 := h
  unfold levelItem
  by_cases hzero : level = 0
  · subst hzero
    rw [if_neg (by decide)]
    rfl
  · have hpos : 0 < level.toNat := by
      rw [← UInt8.toNat_inj] at hzero
      exact Nat.pos_of_ne_zero hzero
    rw [if_pos ⟨by omega, .inr (by omega)⟩]
    show (if Number.between 0 100 (Number.ofInt ((level.toNat : Int) - 1) : D) then _ else _) = _
    rw [between_ofInt_of_le (by omega) (by omega) (by decide) (by decide), if_pos rfl,
      Arith.succ_ofInt _ (by omega) (by omega), Int.sub_add_cancel,
      convert_ofInt (by omega) (by omega) (by decide) (by decide)]
    have hmod : ((level.toNat : Int) % 2 ^ 8).toNat = level.toNat := by omega
    rw [UInt8.ofInt, hmod, UInt8.ofNat_toNat]

theorem levelOf_kept {level : UInt8} (h : level ≤ 101) (l : List (Node D)) :
    levelOf ((levelItem level).put l).head? = level ↔ Kept levelOf (levelItem level) l := by
  refine read_put_iff (levelOf_levelItem h) (fun old hsame => ?_) l
  have hobj : ∀ obj, (levelItem level : Item D) ≠ .object obj := by
    intro obj hobj
    unfold levelItem at hobj
    split at hobj
    · cases hobj
    · cases hobj
  unfold levelOf numberOf
  rw [Option.map_some, Option.map_some, kind_update hobj hsame]

omit [Arith D] in
theorem muteOf_kept {mute : UInt8} (h : mute ≤ 1) (l : List (Node D)) :
    muteOf ((muteItem mute).put l).head? = mute ↔ Kept muteOf (muteItem mute) l := by
  have hvalue : mute = 0 ∨ mute = 1 := by
    have hle : mute.toNat ≤ 1 := h
    rw [← UInt8.toNat_inj, ← UInt8.toNat_inj]
    show mute.toNat = 0 ∨ mute.toNat = 1
    omega
  refine read_put_iff ?_ (fun old hsame => ?_) l
  · rcases hvalue with rfl | rfl
    · rfl
    · rfl
  · have hobj : ∀ obj, (muteItem mute : Item D) ≠ .object obj := by
      intro obj hobj
      unfold muteItem at hobj
      split at hobj
      · cases hobj
      · cases hobj
    unfold muteOf boolOf
    rw [Option.map_some, Option.map_some, kind_update hobj hsame]

theorem arrayOf_kept (infos : Vector TContainer_SensorInfo 10) (l : List (Node D)) :
    arrayOf ((sensorsItem infos).put l).head? = normal infos ↔
      Kept arrayOf (sensorsItem infos) l := by
  refine read_put_iff ?_ (fun _ _ => rfl) l
  unfold arrayOf sensorsItem
  rw [Option.map_some, Option.getD_some]
  show sensorsOf (Node.ofItems _).items = _
  rw [Node.items_ofItems, sensorsOf_written]

theorem get_setConfig (root : Node D) (config : TChannelConfig_Container) {p : String × Item D}
    (hp : p ∈ items config) :
    (setConfig root config).get p.1 = (p.2.put (root.named p.1)).head? := by
  have hne : ∀ name ∈ names, name ≠ "" := by decide
  rw [setConfig_eq, Node.get_eq_named, named_setItems _ root ?_ ?_ hp]
  · rw [items_names]
    decide
  · exact fun q hq => hne q.1 (items_names (D := D) config ▸ List.mem_map_of_mem hq)

/-- **A container configuration is read back reduced exactly if the previous members keep it.** -/
theorem getConfig_setConfig_iff {config : TChannelConfig_Container} (h : Storable config)
    (root : Node D) :
    (getConfig (setConfig root config)).map Prod.snd = some (reduce config) ↔
      Keeps root config := by
  obtain ⟨result, hget⟩ := getConfig_eq (setConfig root config)
  have hitem := fun p hp => get_setConfig root config (p := p) hp
  rw [hget, Option.map_some, Option.some_inj, TChannelConfig_Container.ext_iff]
  simp only [reduce]
  rw [hitem ("warningAboveLevel", levelItem config.warningAboveLevel) (by simp [items]),
    hitem ("alarmAboveLevel", levelItem config.alarmAboveLevel) (by simp [items]),
    hitem ("warningBelowLevel", levelItem config.warningBelowLevel) (by simp [items]),
    hitem ("alarmBelowLevel", levelItem config.alarmBelowLevel) (by simp [items]),
    hitem ("muteAlarmSoundWithoutAdditionalAuth",
      muteItem config.muteAlarmSoundWithoutAdditionalAuth) (by simp [items]),
    hitem ("sensors", sensorsItem config.sensorInfo) (by simp [items]),
    levelOf_kept h.warningAbove, levelOf_kept h.alarmAbove, levelOf_kept h.warningBelow,
    levelOf_kept h.alarmBelow, muteOf_kept h.mute, arrayOf_kept]
  constructor
  · intro hall
    obtain ⟨h1, h2, h3, h4, h5, h6⟩ := hall
    exact ⟨h1, h2, h3, h4, h5, h6⟩
  · intro hall
    exact ⟨hall.1, hall.2, hall.3, hall.4, hall.5, hall.6⟩

/-- A configuration whose members have different names keeps what is set, and goes on to. -/
theorem keeps_of_single {root : Node D} (h : ∀ name ∈ names, (root.named name).length ≤ 1)
    (config config' : TChannelConfig_Container) :
    Keeps root config ∧ Keeps (setConfig root config) config' := by
  have hnext : ∀ p ∈ (items config : List (String × Item D)),
      ((setConfig root config).named p.1).length ≤ 1 := by
    intro p hp
    rw [setConfig_eq, named_setItems (items config) root ?_ ?_ hp]
    · exact length_put_le (h p.1 (items_names (D := D) config ▸ List.mem_map_of_mem hp))
    · rw [items_names]
      decide
    · have hne : ∀ name ∈ names, name ≠ "" := by decide
      exact fun q hq => hne q.1 (items_names (D := D) config ▸ List.mem_map_of_mem hq)
  have hnext' : ∀ name ∈ names, ((setConfig root config).named name).length ≤ 1 := by
    intro name hname
    rw [← items_names (D := D) config] at hname
    obtain ⟨p, hp, rfl⟩ := List.mem_map.mp hname
    exact hnext p hp
  have hkeeps : ∀ {root : Node D} {config : TChannelConfig_Container},
      (∀ name ∈ names, (root.named name).length ≤ 1) → Keeps root config := fun h =>
    ⟨.single (h _ (by decide)), .single (h _ (by decide)), .single (h _ (by decide)),
      .single (h _ (by decide)), .single (h _ (by decide)), .single (h _ (by decide))⟩
  exact ⟨hkeeps h, hkeeps hnext'⟩

end Container

/-! ## A valve set over another -/

namespace Valve

def floodOf (item : Option (Node D)) : UInt8 := stringToCloseOnFloodType ((stringOf item).getD "")

def arrayOf (item : Option (Node D)) : Vector TValve_SensorInfo 20 :=
  sensorsOf ((item.map Node.items).getD [])

def floodItem (type : UInt8) : Item D := .string (closeOnFloodTypeToString type)

def sensorsItem (infos : Vector TValve_SensorInfo 20) : Item D :=
  .object (.ofItems (sensorItems [] infos.toList))

theorem getConfig_eq (root : Node D) :
    ∃ result, getConfig root = some (result,
      { sensorInfo := arrayOf (root.get "sensorChannelNumbers")
        closeValveOnFloodType := floodOf (root.get "closeValveOnFloodType") }) := by
  unfold getConfig
  cases hget : root.get "sensorChannelNumbers" with
  | none =>
    rw [show arrayOf (none : Option (Node D)) = Vector.replicate 20 {} from pad_nil]
    exact ⟨_, rfl⟩
  | some sensors =>
    have hloop := readSensors_spec sensors.items [] (by decide) fun _ h => absurd h List.not_mem_nil
    rw [pad_nil, List.length_nil] at hloop
    dsimp only
    rw [hloop]
    exact ⟨_, rfl⟩

/-- The configuration with its sensors reduced. -/
def reduce (config : TChannelConfig_Valve) : TChannelConfig_Valve :=
  { config with sensorInfo := normal config.sensorInfo }

/-- The members of a previous configuration keep what is set; where the flood type is taken out, a
second member that comes to the front has none either. -/
structure Keeps (root : Node D) (config : TChannelConfig_Valve) : Prop where
  sensors : Kept arrayOf (sensorsItem config.sensorInfo) (root.named "sensorChannelNumbers")
  floodType : if config.closeValveOnFloodType = SUPLA_VALVE_CLOSE_ON_FLOOD_TYPE_NONE then
      floodOf (root.named "closeValveOnFloodType")[1]? = SUPLA_VALVE_CLOSE_ON_FLOOD_TYPE_NONE
    else Kept floodOf (floodItem config.closeValveOnFloodType) (root.named "closeValveOnFloodType")

omit [Arith D] in
theorem floodOf_kept {type : UInt8} (h : type ≤ 2) (l : List (Node D)) :
    floodOf ((floodItem type).put l).head? = type ↔ Kept floodOf (floodItem type) l := by
  have hvalue : type = 0 ∨ type = 1 ∨ type = 2 := by
    have hle : type.toNat ≤ 2 := h
    rw [← UInt8.toNat_inj, ← UInt8.toNat_inj, ← UInt8.toNat_inj]
    show type.toNat = 0 ∨ type.toNat = 1 ∨ type.toNat = 2
    omega
  refine read_put_iff ?_ (fun _ _ => rfl) l
  show stringToCloseOnFloodType (closeOnFloodTypeToString type) = type
  rcases hvalue with rfl | rfl | rfl
  · decide
  · decide
  · decide

theorem arrayOf_kept (infos : Vector TValve_SensorInfo 20) (l : List (Node D)) :
    arrayOf ((sensorsItem infos).put l).head? = normal infos ↔
      Kept arrayOf (sensorsItem infos) l := by
  refine read_put_iff ?_ (fun _ _ => rfl) l
  unfold arrayOf sensorsItem
  rw [Option.map_some, Option.getD_some]
  show sensorsOf (Node.ofItems _).items = _
  rw [Node.items_ofItems, sensorsOf_written]

theorem named_sensors (root : Node D) (config : TChannelConfig_Valve) :
    (setConfig root config).named "sensorChannelNumbers" =
      (sensorsItem config.sensorInfo).put (root.named "sensorChannelNumbers") := by
  unfold setConfig
  dsimp only
  split
  · rw [Node.named_erase_other (by decide), named_setItemValue_self _ (by decide)]
    rfl
  · rw [named_setItemValue_other _ _ (by decide), named_setItemValue_self _ (by decide)]
    rfl

theorem named_floodType (root : Node D) (config : TChannelConfig_Valve) :
    (setConfig root config).named "closeValveOnFloodType" =
      if config.closeValveOnFloodType = SUPLA_VALVE_CLOSE_ON_FLOOD_TYPE_NONE then
        (root.named "closeValveOnFloodType").tail
      else (floodItem config.closeValveOnFloodType).put (root.named "closeValveOnFloodType") := by
  unfold setConfig
  dsimp only
  split
  · rw [Node.named_erase_self, named_setItemValue_other _ _ (by decide)]
  · rw [named_setItemValue_self _ (by decide), named_setItemValue_other _ _ (by decide)]
    rfl

/-- **A valve configuration is read back reduced exactly if the previous members keep it.** -/
theorem getConfig_setConfig_iff {config : TChannelConfig_Valve}
    (h : config.closeValveOnFloodType ≤ 2) (root : Node D) :
    (getConfig (setConfig root config)).map Prod.snd = some (reduce config) ↔
      Keeps root config := by
  have hflood : floodOf ((setConfig root config).get "closeValveOnFloodType") =
      config.closeValveOnFloodType ↔
      if config.closeValveOnFloodType = SUPLA_VALVE_CLOSE_ON_FLOOD_TYPE_NONE then
        floodOf (root.named "closeValveOnFloodType")[1]? = SUPLA_VALVE_CLOSE_ON_FLOOD_TYPE_NONE
      else Kept floodOf (floodItem config.closeValveOnFloodType)
        (root.named "closeValveOnFloodType") := by
    rw [Node.get_eq_named, named_floodType]
    by_cases hnone : config.closeValveOnFloodType = SUPLA_VALVE_CLOSE_ON_FLOOD_TYPE_NONE
    · rw [if_pos hnone, if_pos hnone, hnone, List.head?_eq_getElem?, List.getElem?_tail]
    · rw [if_neg hnone, if_neg hnone, floodOf_kept h]
  obtain ⟨result, hget⟩ := getConfig_eq (setConfig root config)
  rw [hget, Option.map_some, Option.some_inj, TChannelConfig_Valve.ext_iff]
  simp only [reduce]
  rw [hflood, Node.get_eq_named, named_sensors, arrayOf_kept]
  constructor
  · intro hall
    exact ⟨hall.1, hall.2⟩
  · intro hall
    exact ⟨hall.1, hall.2⟩

/-- A configuration whose members have different names keeps what is set, and goes on to. -/
theorem keeps_of_single {root : Node D}
    (hsensors : (root.named "sensorChannelNumbers").length ≤ 1)
    (hflood : (root.named "closeValveOnFloodType").length ≤ 1)
    (config config' : TChannelConfig_Valve) :
    Keeps root config ∧ Keeps (setConfig root config) config' := by
  have hkeeps : ∀ {root : Node D} {config : TChannelConfig_Valve},
      (root.named "sensorChannelNumbers").length ≤ 1 →
      (root.named "closeValveOnFloodType").length ≤ 1 → Keeps root config := by
    intro root config hsensors hflood
    refine ⟨.single hsensors, ?_⟩
    split
    · rw [List.getElem?_eq_none hflood]
      rfl
    · exact .single hflood
  refine ⟨hkeeps hsensors hflood, hkeeps ?_ ?_⟩
  · rw [named_sensors]
    exact length_put_le hsensors
  · rw [named_floodType]
    split
    · rw [List.length_tail]
      omega
    · exact length_put_le hflood

end Valve

/-! ## Both -/

/-- `get_config` after `set_config` yields the configuration reduced, and a second time the same. -/
def Container.Settles (root : Node D) (config : TChannelConfig_Container) : Prop :=
  (getConfig (setConfig root config)).map Prod.snd = some (reduce config) ∧
    (getConfig (setConfig (setConfig root config) (reduce config))).map Prod.snd =
      some (reduce config)

def Valve.Settles (root : Node D) (config : TChannelConfig_Valve) : Prop :=
  (getConfig (setConfig root config)).map Prod.snd = some (reduce config) ∧
    (getConfig (setConfig (setConfig root config) (reduce config))).map Prod.snd =
      some (reduce config)

/-- The items under the name of the sensors. -/
def itemsUnder (root : Node D) (name : String) : List (Node D) :=
  ((root.get name).map Node.items).getD []

/-- **Sensor lists are normalised.** Both `get_config` keep to `SensorInfo` and fill it from the
front; a valve then has no channel twice, a container exactly if no number that is no byte collides.
What is set settles exactly if the members of the configurations it is set over keep it. -/
theorem sensors_normalised :
    (∀ root : Node D, ∃ r, Container.getConfig root = some r ∧
      Front Container.isSet r.2.sensorInfo ∧
      ((Container.channels r.2.sensorInfo).Nodup ↔
        ¬ Collides Container.rule 10 [] (Container.accepted (itemsUnder root "sensors")))) ∧
    (∀ root : Node D, ∃ r, Valve.getConfig root = some r ∧ Front Valve.isSet r.2.sensorInfo ∧
      (Valve.channels r.2.sensorInfo).Nodup) ∧
    (∀ (root : Node D) (config : TChannelConfig_Container), Container.Storable config →
      (Container.Settles root config ↔ Container.Keeps root config ∧
        Container.Keeps (Container.setConfig root config) (Container.reduce config))) ∧
    ∀ (root : Node D) (config : TChannelConfig_Valve), config.closeValveOnFloodType ≤ 2 →
      (Valve.Settles root config ↔ Valve.Keeps root config ∧
        Valve.Keeps (Valve.setConfig root config) (Valve.reduce config)) := by
  refine ⟨fun root => ?_, fun root => ?_, fun root config h => ?_, fun root config h => ?_⟩
  · obtain ⟨result, hget⟩ := Container.getConfig_eq root
    exact ⟨_, hget, Container.sensorsOf_front _, Container.sensorsOf_nodup_iff _⟩
  · obtain ⟨result, hget⟩ := Valve.getConfig_eq root
    exact ⟨_, hget, Valve.sensorsOf_front _, Valve.sensorsOf_nodup _⟩
  · have hstorable : Container.Storable (Container.reduce config) := ⟨h.1, h.2, h.3, h.4, h.5⟩
    have htwice : Container.reduce (Container.reduce config) = Container.reduce config := by
      unfold Container.reduce
      rw [Container.normal_normal]
    have hsecond := Container.getConfig_setConfig_iff hstorable (Container.setConfig root config)
    rw [htwice] at hsecond
    exact and_congr (Container.getConfig_setConfig_iff h root) hsecond
  · have htwice : Valve.reduce (Valve.reduce config) = Valve.reduce config := by
      unfold Valve.reduce
      rw [Valve.normal_normal]
    have hflood : (Valve.reduce config).closeValveOnFloodType ≤ 2 := by
      simp only [Valve.reduce]
      exact h
    have hsecond := Valve.getConfig_setConfig_iff hflood (Valve.setConfig root config)
    rw [htwice] at hsecond
    exact and_congr (Valve.getConfig_setConfig_iff h root) hsecond

/-- Sensors given twice, set over nothing. -/
theorem sensors_normalised_twice :
    let container : TChannelConfig_Container :=
      { warningAboveLevel := 101
        sensorInfo := ((Vector.replicate 10 {}).set 1 ⟨7, 1, 3⟩).set 4 ⟨200, 1, 3⟩ }
    let valve : TChannelConfig_Valve :=
      { sensorInfo := ((Vector.replicate 20 {}).set 1 ⟨1, 3⟩).set 4 ⟨1, 3⟩
        closeValveOnFloodType := SUPLA_VALVE_CLOSE_ON_FLOOD_TYPE_ALWAYS }
    Container.Settles (.emptyObject : Node Int) container ∧
      Valve.Settles (.emptyObject : Node Int) valve := by
  intro container valve
  have hstorable : Container.Storable container :=
    ⟨by decide, by decide, by decide, by decide, by decide⟩
  have hflood : valve.closeValveOnFloodType ≤ 2 := by decide
  have hempty : ∀ name, ((.emptyObject : Node Int).named name).length ≤ 1 :=
    fun _ => Nat.zero_le 1
  exact ⟨(sensors_normalised.2.2.1 _ container hstorable).mpr
      (Container.keeps_of_single (fun name _ => hempty name) container _),
    (sensors_normalised.2.2.2 _ valve hflood).mpr
      (Valve.keeps_of_single (hempty _) (hempty _) valve _)⟩

/-- Two sensors of a container with the number 1.5. -/
def oneAndAHalf : Node Halves :=
  .mk .object [(some "sensors", .ofItems
    [.mk .object [(some "channelNo", .leaf (.number ⟨3⟩))],
      .mk .object [(some "channelNo", .leaf (.number ⟨3⟩))]])]

theorem half_channel_twice : ¬ ∀ root : Node Halves, ∃ r, Container.getConfig root = some r ∧
    (Container.channels r.2.sensorInfo).Nodup := by
  intro h
  obtain ⟨r, hget, hnodup⟩ := h oneAndAHalf
  have hread : (Container.getConfig oneAndAHalf).map (fun r => Container.channels r.2.sensorInfo) =
      some [1, 1] := by decide
  rw [hget, Option.map_some, Option.some_inj] at hread
  rw [hread] at hnodup
  exact absurd hnodup (by decide)

end Channel
