import SuplaCore.Device.Proof.JsonConfig
import SuplaCore.Device.SetConfig

/-!
# Configurations are stored whole

What a call copies of a part is enough for what `set_config` reads (`setConfig_delivered`), so a
call that holds all parts since the last one with `EndOfDataFlag` is stored as if they had been set
as they came (`popAll_spec`). As long as no part finds an expired call in the store (`InTime`),
every call does (`stored_whole`). A part that comes too late drops those before it and is stored
without them (`stored_tail`).
-/

namespace Device.SetConfig

open Bytes Json Device.JsonConfig

variable {N : Doubles}

/-! ## What has to hold -/

/-- The parts since the last one with `EndOfDataFlag`; the log has the newest first. -/
def unfinished : List (Reaction N) → List SetDeviceConfig
  | [] => []
  | r :: log => if r.part.isLast then [] else unfinished log ++ [r.part]

/-- The configuration that parts make. -/
def storedOf (parts : List SetDeviceConfig) : Stored N where
  config := leaveOnlyThiseFields
    ((parts.foldl (fun fields p => fields ||| p.fields.setWidth 16) (0 : BitVec 16)).setWidth 64)
    (parts.foldl (fun c p => setConfig c p.chunk) .empty)
  availableFields :=
    parts.foldl (fun available p => available ||| p.availableFields.setWidth 16) 0

/-- Every part brought about what it should after those before it: a configuration is stored with
the last part and made of all parts since the previous last one; the last part has one result. -/
def Faithful : List (Reaction N) → Prop
  | [] => True
  | r :: log =>
    (∀ x, r.stored = some x → r.part.isLast = true ∧ x = storedOf (unfinished log ++ [r.part])) ∧
      r.results.length = (if r.part.isLast then 1 else 0) ∧ Faithful log

/-- **Configurations are stored whole**, and at most one call is unfinished. -/
structure Handler.Whole (s : Handler N) : Prop where
  faithful : Faithful s.log
  single : s.calls.countP (fun call => call.callId == setDeviceConfigCallId) ≤ 1

/-- **The condition**: no unfinished call has expired when a part arrives. -/
def InTime (s : Handler N) (a : Arrival) : Prop := ∀ call ∈ s.calls, a.now < call.expiresAt

/-! ## What `set_config` reads -/

theorem readLE_drop_take {b : List UInt8} {n k off w : Nat} (h : k + (off + w) ≤ n) :
    readLE ((b.take n).drop k) off w = readLE (b.drop k) off w := by
  rw [List.drop_take, readLE_take (by omega)]

/-- A setter reads its structure and nothing behind it. -/
theorem setField_take (c : Config N) (b : List UInt8) (f : Field) {n : Nat} (h : f.size ≤ n) :
    setField c (b.take n) f = setField c b f := by
  cases f <;> simp only [Field.size] at h <;>
    simp (disch := omega) only [setField, setStatusLed, setPowerStatusLed, setScreenBrightness,
      setButtonVolume, setUserInterfaceDisabled, setAutomaticTimeSync, setHomeScreenOffDelay,
      setHomeScreenOffDelayType, setHomeScreenContent, setModbusConfig, setFirmwareUpdateConfig,
      modbusSerialConfigToJson, modbusNetworkConfigToJson, modbusAvailableProtocolsToJson,
      modbusAvailableBaudratesToJson, modbusAvailableStopBitsToJson, readInt, readLE_take,
      readLE_drop_take]

/-- Two chunks that agree on what a part carries. -/
structure Same (p q : SetDeviceConfig) : Prop where
  isLast : q.isLast = p.isLast
  fields : q.fields = p.fields
  availableFields : q.availableFields = p.availableFields
  configSize : min q.configSize deviceConfigMaxsize = min p.configSize deviceConfigMaxsize
  config : q.config.take (min p.configSize deviceConfigMaxsize) =
    p.config.take (min p.configSize deviceConfigMaxsize)

theorem Same.setConfig {p q : SetDeviceConfig} (h : Same p q) (c : Config N) :
    setConfig c q.chunk = setConfig c p.chunk := by
  have hfields : ∀ (fs : List Field) (offset : Nat) (c : Config N),
      applyFields q.chunk fs offset c = applyFields p.chunk fs offset c := by
    intro fs
    induction fs with
    | nil => exact fun _ _ => rfl
    | cons f fs ih =>
      intro offset c
      have hf : q.chunk.fields = p.chunk.fields := h.fields
      have hsize : min q.chunk.configSize deviceConfigMaxsize =
          min p.chunk.configSize deviceConfigMaxsize := h.configSize
      -- the structure lies within what both carry
      have hread : f.size ≤ min p.chunk.configSize deviceConfigMaxsize - offset →
          setField c (q.chunk.config.drop offset) f =
            setField c (p.chunk.config.drop offset) f := by
        intro hfits
        have hconfig : q.chunk.config.take (min p.chunk.configSize deviceConfigMaxsize) =
            p.chunk.config.take (min p.chunk.configSize deviceConfigMaxsize) := h.config
        rw [← setField_take c (q.chunk.config.drop offset) f hfits, ← List.drop_take, hconfig,
          List.drop_take, setField_take c _ f hfits]
      have hset : (if f.size ≤ min p.chunk.configSize deviceConfigMaxsize - offset then
            setField c (q.chunk.config.drop offset) f else c) =
          if f.size ≤ min p.chunk.configSize deviceConfigMaxsize - offset then
            setField c (p.chunk.config.drop offset) f else c := by
        split
        · rename_i hfits
          exact hread hfits
        · rfl
      simp only [applyFields, hf, hsize, hset, ih]
  exact hfields Field.all 0 c

/-! ## What a call copies -/

/-- The block that is copied of a part. -/
def block (p : SetDeviceConfig) : List UInt8 :=
  p.bytes.take (min (headerSize + p.configSize) (headerSize + deviceConfigMaxsize))

theorem length_block (p : SetDeviceConfig) :
    (block p).length = min (headerSize + p.configSize) (headerSize + deviceConfigMaxsize) := by
  rw [block, List.length_take, p.size]
  omega

theorem partPush_parts (p : SetDeviceConfig) (call : MultipartCall) :
    partPush p call = { call with parts := call.parts ++ [block p] } := by
  have hsize : (if headerSize + p.configSize > headerSize + deviceConfigMaxsize then
      headerSize + deviceConfigMaxsize else headerSize + p.configSize) =
      min (headerSize + p.configSize) (headerSize + deviceConfigMaxsize) := by
    split <;> omega
  have hne : block p ≠ [] := by
    have hlen := length_block p
    intro hnil
    rw [hnil, List.length_nil, headerSize] at hlen
    omega
  simp only [partPush, hsize]
  exact if_neg hne

/-- A part with its size clamped. -/
theorem clamp_same (p : SetDeviceConfig) : Same p p.clamp := by
  unfold SetDeviceConfig.clamp
  split
  · rename_i hlarge
    have hbytes : memcpy p.bytes 25 (toLE 2 deviceConfigMaxsize) 2 =
        p.bytes.take 25 ++ (toLE 2 deviceConfigMaxsize ++ p.bytes.drop headerSize) := by
      simp [memcpy, headerSize, List.append_assoc, toLE]
    have hlen : (p.bytes.take 25).length = 25 := by
      rw [List.length_take, p.size]
      decide
    have hhead : ∀ off w, off + w ≤ 25 →
        readLE (memcpy p.bytes 25 (toLE 2 deviceConfigMaxsize) 2) off w = readLE p.bytes off w := by
      intro off w hle
      rw [hbytes, readLE_append (by omega), readLE_take hle]
    have hsize : readLE (memcpy p.bytes 25 (toLE 2 deviceConfigMaxsize) 2) 25 2 =
        deviceConfigMaxsize := by
      rw [hbytes, readLE, List.drop_left' hlen, List.take_left' (length_toLE 2 _)]
      decide
    have hmin : min p.configSize deviceConfigMaxsize = deviceConfigMaxsize :=
      Nat.min_eq_right (by omega)
    refine ⟨?_, ?_, ?_, ?_, ?_⟩
    · simp only [SetDeviceConfig.isLast, SetDeviceConfig.endOfDataFlag, hhead 0 1 (by decide)]
    · simp only [SetDeviceConfig.fields, hhead 17 8 (by decide)]
    · simp only [SetDeviceConfig.availableFields, hhead 9 8 (by decide)]
    · rw [hmin, SetDeviceConfig.configSize, hsize, Nat.min_self]
    · simp only [SetDeviceConfig.config, hbytes]
      rw [← List.append_assoc, List.drop_left']
      simp [hlen, headerSize]
  · exact ⟨rfl, rfl, rfl, rfl, rfl⟩

/-- A block that holds the header and what the part carries behind it. -/
theorem copied_same {p q : SetDeviceConfig} {tail : List UInt8} (hq : q.bytes = block p ++ tail) :
    Same p q := by
  have hlen := length_block p
  have hhead : ∀ off w, off + w ≤ headerSize → readLE q.bytes off w = readLE p.bytes off w := by
    intro off w hle
    rw [hq, readLE_append (by omega), block, readLE_take (by omega)]
  have hsize : q.configSize = p.configSize := hhead 25 2 (by decide)
  refine ⟨?_, ?_, ?_, by rw [hsize], ?_⟩
  · simp only [SetDeviceConfig.isLast, SetDeviceConfig.endOfDataFlag, hhead 0 1 (by decide)]
  · simp only [SetDeviceConfig.fields, hhead 17 8 (by decide)]
  · simp only [SetDeviceConfig.availableFields, hhead 9 8 (by decide)]
  · rw [SetDeviceConfig.config, hq, List.drop_append_of_le_length (by omega), List.take_left',
      SetDeviceConfig.config, block, List.drop_take]
    · congr 1
      omega
    · rw [List.length_drop]
      omega

/-- **What is set of a part** is what it carries. -/
theorem partPop_block (p : SetDeviceConfig) : ∃ q, partPop (block p) = some q ∧ Same p q := by
  have hlen := length_block p
  have hfits : headerSize ≤ (block p).length ∧
      (block p).length ≤ headerSize + deviceConfigMaxsize := by omega
  have hbytes : memcpy (List.replicate (headerSize + deviceConfigMaxsize) 0) 0 (block p)
      (block p).length = block p ++ (List.replicate (headerSize + deviceConfigMaxsize) 0).drop
        (0 + min (block p).length (block p).length) := by
    simp only [memcpy, List.take_zero, List.nil_append, List.take_length]
  have hcopied : Same p ⟨_, length_zeroed hfits.2⟩ := copied_same hbytes
  have hclamp := clamp_same ⟨_, length_zeroed hfits.2⟩
  refine ⟨_, dif_pos hfits, hclamp.isLast.trans hcopied.isLast,
    hclamp.fields.trans hcopied.fields, hclamp.availableFields.trans hcopied.availableFields,
    hclamp.configSize.trans hcopied.configSize, ?_⟩
  rw [← hcopied.configSize, hclamp.config, hcopied.configSize, hcopied.config]

/-! ## A complete call -/

/-- **The loop sets all parts** up to the first with `EndOfDataFlag`. -/
theorem popAll_spec (parts : List SetDeviceConfig) (p : SetDeviceConfig)
    (hparts : ∀ p ∈ parts, p.isLast = false) (hp : p.isLast = true) (c : Config N)
    (fields available : BitVec 16) :
    popAll ((parts ++ [p]).map block) c fields available = some
      ⟨leaveOnlyThiseFields
          (((parts ++ [p]).foldl (fun f p => f ||| p.fields.setWidth 16) fields).setWidth 64)
          ((parts ++ [p]).foldl (fun c p => setConfig c p.chunk) c),
        (parts ++ [p]).foldl (fun a p => a ||| p.availableFields.setWidth 16) available⟩ := by
  induction parts generalizing c fields available with
  | nil =>
    obtain ⟨q, hq, hsame⟩ := partPop_block p
    simp only [List.nil_append, List.map_cons, List.map_nil, popAll, hq, hsame.isLast, hp, if_pos,
      hsame.setConfig, hsame.fields, hsame.availableFields, List.foldl_cons, List.foldl_nil]
  | cons p' parts ih =>
    obtain ⟨q, hq, hsame⟩ := partPop_block p'
    have hnot : q.isLast = false := hsame.isLast.trans (hparts p' List.mem_cons_self)
    simp only [List.cons_append, List.map_cons, popAll, hq, hnot, hsame.setConfig, hsame.fields,
      hsame.availableFields, List.foldl_cons]
    exact ih (fun p hp => hparts p (List.mem_cons_of_mem _ hp)) _ _ _

/-! ## Runs -/

/-- The store holds the parts that have come since the last one with `EndOfDataFlag`. -/
structure Inv (s : Handler N) : Prop where
  calls : (s.calls = [] ∧ unfinished s.log = []) ∨ ∃ call, s.calls = [call] ∧
    call.callId = setDeviceConfigCallId ∧ call.parts = (unfinished s.log).map block
  more : ∀ p ∈ unfinished s.log, p.isLast = false
  faithful : Faithful s.log

section
variable {s s' : Handler N} {a : Arrival}

/-- The call a part is copied to, which holds all parts since the last one. -/
theorem Inv.access (h : Inv s) (hok : InTime s a) : ∃ call : MultipartCall,
    call.callId = setDeviceConfigCallId ∧
      call.parts = (unfinished s.log ++ [a.part]).map block ∧
      access a.now a.part s.calls =
        if a.part.isLast then (some call, []) else (none, [call]) := by
  rcases h.calls with ⟨hcalls, hnone⟩ | ⟨call, hcalls, hid, hparts⟩
  · refine ⟨partPush a.part (.new setDeviceConfigCallId 3000 a.now), ?_, ?_, ?_⟩
    · rw [partPush_parts]
      rfl
    · rw [partPush_parts, hnone]
      rfl
    · rw [hcalls]
      unfold SetConfig.access
      cases a.part.isLast <;> rfl
  · refine ⟨partPush a.part call, ?_, ?_, ?_⟩
    · rw [partPush_parts]
      exact hid
    · rw [partPush_parts, hparts, List.map_append, List.map_singleton]
    · have hget : get setDeviceConfigCallId a.now [call] = (some 0, [call]) := by
        have hlive : call.isExpired a.now = false :=
          decide_eq_false
            (Nat.not_le_of_lt (hok call (by rw [hcalls]; exact List.mem_singleton_self _)))
        simp [get, List.findIdx?_cons, hid, hlive]
      rw [hcalls]
      unfold SetConfig.access
      rw [hget]
      cases a.part.isLast <;> rfl

theorem Inv.init (h : (handler N).init s) : Inv s := by
  obtain ⟨hcalls, hlog⟩ := h
  have hnone : unfinished s.log = [] := by rw [hlog]; rfl
  refine ⟨.inl ⟨hcalls, hnone⟩, fun p hp => ?_, ?_⟩
  · rw [hnone] at hp
    cases hp
  · rw [hlog]
    trivial

theorem Inv.step (hok : InTime s a) (h : Inv s) (hs : (handler N).step s a = some s') :
    Inv s' := by
  cases hs
  obtain ⟨call, hid, hparts, haccess⟩ := h.access hok
  cases hlast : a.part.isLast with
  | false =>
    rw [hlast, if_neg Bool.false_ne_true] at haccess
    have hunfinished : unfinished ((⟨a.part, none, []⟩ : Reaction N) :: s.log) =
        unfinished s.log ++ [a.part] := if_neg (by rw [hlast]; exact Bool.false_ne_true)
    have hnext : handleCall a.now a.part a.saved s = ⟨[call], ⟨a.part, none, []⟩ :: s.log⟩ := by
      rw [handleCall, haccess]
    rw [hnext]
    refine ⟨.inr ⟨call, rfl, hid, hparts.trans (congrArg _ hunfinished.symm)⟩, fun p hp => ?_,
      ⟨fun x hx => (by cases hx), ?_, h.faithful⟩⟩
    · rw [hunfinished] at hp
      rcases List.mem_append.mp hp with hp | hp
      · exact h.more p hp
      · rw [List.mem_singleton.mp hp]
        exact hlast
    · rw [hlast]
      rfl
  | true =>
    rw [hlast, if_pos rfl] at haccess
    have hunfinished :
        unfinished (handleMultipartCall (N := N) a.part call a.saved :: s.log) = [] :=
      if_pos hlast
    have hstored : popAll call.parts .empty 0 0 =
        some (storedOf (N := N) (unfinished s.log ++ [a.part])) := by
      rw [hparts]
      exact popAll_spec _ _ h.more hlast _ _ _
    have hnext : handleCall a.now a.part a.saved s =
        ⟨[], handleMultipartCall a.part call a.saved :: s.log⟩ := by
      rw [handleCall, haccess]
    rw [hnext]
    refine ⟨.inl ⟨rfl, hunfinished⟩, fun p hp => ?_, ⟨fun x hx => ⟨hlast, ?_⟩, ?_, h.faithful⟩⟩
    · rw [hunfinished] at hp
      cases hp
    · exact (Option.some.inj (hstored.symm.trans hx)).symm
    · exact (if_pos hlast).symm

theorem Inv.whole (h : Inv s) : s.Whole := by
  refine ⟨h.faithful, ?_⟩
  rcases h.calls with ⟨hcalls, -⟩ | ⟨call, hcalls, -, -⟩
  · rw [hcalls]
    exact Nat.zero_le 1
  · rw [hcalls]
    exact List.countP_le_length

end

/-- **A configuration is stored whole or not at all**, when no part comes too late. -/
theorem stored_whole (s : Handler N) (h : Sys.Reach (handler N) InTime s) : s.Whole :=
  (h.invariant (P := Inv) (fun _ => Inv.init) Inv.step).whole

/-- **A part that comes too late** drops those before it; it is stored without them. -/
theorem handleCall_late {s : Handler N} {call : MultipartCall} {p : SetDeviceConfig} {now : Nat}
    {saved : Bool} (hcalls : s.calls = [call]) (hid : call.callId = setDeviceConfigCallId)
    (hlate : call.expiresAt ≤ now) (hlast : p.isLast = true) :
    handleCall now p saved s = ⟨[], ⟨p, some (storedOf [p]), [saved]⟩ :: s.log⟩ := by
  have hget : get setDeviceConfigCallId now [call] = (none, []) := by
    simp [get, List.findIdx?_cons, hid, MultipartCall.isExpired, hlate]
  have haccess : access now p s.calls =
      (some (partPush p (.new setDeviceConfigCallId 3000 now)), []) := by
    rw [hcalls]
    unfold access
    rw [hget, hlast]
    rfl
  have hstored : popAll (partPush p (.new setDeviceConfigCallId 3000 now)).parts .empty 0 0 =
      some (storedOf (N := N) [p]) := by
    rw [partPush_parts]
    exact popAll_spec [] p (fun _ hp => by cases hp) hlast _ _ _
  rw [handleCall, haccess]
  simp only [handleMultipartCall, hstored, Option.isSome_some, Bool.true_and]

/-! ## Scenarios -/

/-- A part without fields. -/
def emptyPart (last available : UInt8) : SetDeviceConfig where
  bytes := [last, 0, 0, 0, 0, 0, 0, 0, 0, available, 0, 0, 0, 0, 0, 0, 0, 0, 0, 0, 0, 0, 0, 0, 0, 0,
    0] ++ List.replicate deviceConfigMaxsize 0
  size := by rw [List.length_append, List.length_replicate]; rfl

def noParts (N : Doubles) : Handler N := ⟨[], []⟩

theorem noParts_init : (handler N).init (noParts N) := ⟨rfl, rfl⟩

/-- The first part tells of an available field, the last one of none; a moment between them. -/
theorem stored_whole_two : ∃ s, Sys.Reach (handler rationals) InTime s ∧ s.log.length = 2 ∧
    s.Whole := by
  have hinit : Sys.Reach (handler rationals) InTime _ := .init noParts_init
  have hfirst := hinit.act
    ⟨0, emptyPart 0 1, true⟩ (fun call hcall => by cases hcall) rfl
  have hlast := hfirst.act ⟨1, emptyPart 1 0, true⟩ (fun call hcall => by
    rcases List.mem_singleton.mp hcall with rfl
    decide) rfl
  exact ⟨_, hlast, rfl, stored_whole _ hlast⟩

/-- **A tail is stored**: the last part comes three seconds after the first, whose available field
is not in what is stored. -/
theorem stored_tail : ∃ s, Sys.Reach (handler rationals) Sys.Any s ∧ ¬ s.Whole := by
  have hinit : Sys.Reach (handler rationals) Sys.Any _ := .init noParts_init
  have hfirst := hinit.act
    ⟨0, emptyPart 0 1, true⟩ trivial rfl
  have hlast := hfirst.act ⟨3000000, emptyPart 1 0, true⟩ trivial
    (congrArg some (handleCall_late rfl rfl (by decide) rfl))
  refine ⟨_, hlast, fun hwhole => ?_⟩
  obtain ⟨-, heq⟩ := hwhole.faithful.1 _ rfl
  exact absurd (congrArg Stored.availableFields heq) (by decide)

end Device.SetConfig
