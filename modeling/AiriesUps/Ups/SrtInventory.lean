import AiriesUps.Lib.CString
import AiriesUps.Ups.StringBlock

set_option autoImplicit false

namespace AiriesUps.Ups

open PackedBits (Byte)

-- ups_inventory_t; the strings are the buffers as they lie in the struct.
structure UpsInventory where
  model : List Byte
  sku : List Byte
  serial : List Byte
  firmware : List Byte
  nominalVa : Register
  nominalWatts : Register
  sogConfig : Register
deriving DecidableEq

def srtRegInventoryLen : Nat := 80

def decodeField (regs : List Register) (size : Nat) : Option (List Byte) :=
  (srtStrDecode regs (List.replicate size 0) size).map Decoding.out

-- The registers are those ups_mb_read gave back, from register 516 on.
def srtReadInventory (regs : List Register) : Option UpsInventory :=
  if regs.length ≠ srtRegInventoryLen then none
  else do
    let firmware ← decodeField (regs.take 8) 17
    let model ← decodeField ((regs.drop 16).take 16) 33
    let sku ← decodeField ((regs.drop 32).take 16) 33
    let serial ← decodeField ((regs.drop 48).take 8) 17
    some { model, sku, serial, firmware, nominalVa := regs.getD 72 0, nominalWatts := regs.getD 73 0
           sogConfig := regs.getD 74 0 }

def srtName : List Byte := [0x53, 0x52, 0x54]

-- The registers read are 532 to 547, the model block of the inventory.
def srtDetect (regs : List Register) : Bool :=
  if regs.length ≠ 16 then false
  else
    match (CBuffer.storeAll (List.replicate 33 0) 0 (blockBytes regs)).bind (CBuffer.text 0) with
    | some model => (CString.strstr srtName model).isSome
    | none => false

def modelRegisters (inventory : List Register) : List Register := (inventory.drop 16).take 16

def modelString (inventory : List Register) : Option (List Byte) :=
  (srtReadInventory inventory).bind fun decoded => CBuffer.text 0 decoded.model

def DetectionAgrees (inventory : List Register) : Prop :=
  srtDetect (modelRegisters inventory) = true ↔ ∃ model, modelString inventory = some model ∧ srtName <:+: model

def beforeNul (bytes : List Byte) : List Byte := bytes.takeWhile fun byte => byte ≠ 0

-- The first register has a NUL in one of its halves, and the name stands in the bytes
-- behind the padding before a further NUL.
def HiddenByPadding (regs : List Register) : Prop :=
  (∃ reg, regs.head? = some reg ∧ (highByte reg = 0 ∨ lowByte reg = 0)) ∧
    srtName <:+: beforeNul (afterPadding regs)

theorem block_bytes_length (regs : List Register) : (blockBytes regs).length = regs.length * 2 := by
  induction regs with
  | nil => rfl
  | cons reg rest ih =>
    rw [block_bytes_cons, List.length_cons, List.length_cons, ih, List.length_cons]
    omega

theorem detect_iff (regs : List Register) (length : regs.length = 16) :
    srtDetect regs = true ↔ srtName <:+: beforeNul (blockBytes regs) := by
  have bytes : (blockBytes regs).length = (List.replicate 32 (0 : Byte)).length := by
    rw [block_bytes_length, length, List.length_replicate]
  have stored := CBuffer.store_all_split [] (List.replicate 32 (0 : Byte)) [0] (blockBytes regs) bytes
  have filled : CBuffer.storeAll (List.replicate 33 (0 : Byte)) 0 (blockBytes regs) = some (blockBytes regs ++ [0]) := stored
  rw [srtDetect, if_neg (not_not_intro length), filled, Option.bind_some, CBuffer.text_terminated]
  exact CString.strstr_found_iff srtName _

theorem model_string_text (inventory : List Register) (complete : inventory.length = srtRegInventoryLen) :
    modelString inventory = some (beforeNul (trimmed (afterPadding (modelRegisters inventory)))) := by
  have field : ∀ regs size, 1 ≤ size → ∃ after, decodeField regs size =
      some (trimmed ((afterPadding regs).take (size - 1)) ++ 0 :: after) := by
    intro regs size positive
    obtain ⟨after, decoded, _⟩ := str_decode_text regs (List.replicate size 0) (by rwa [List.length_replicate])
    rw [List.length_replicate] at decoded
    exact ⟨after, by rw [decodeField, srtStrDecode, decoded, Option.map_some]⟩
  obtain ⟨_, firmware⟩ := field (inventory.take 8) 17 (by decide)
  obtain ⟨after, model⟩ := field ((inventory.drop 16).take 16) 33 (by decide)
  obtain ⟨_, sku⟩ := field ((inventory.drop 32).take 16) 33 (by decide)
  obtain ⟨_, serial⟩ := field ((inventory.drop 48).take 8) 17 (by decide)
  have short := after_padding_length (modelRegisters inventory)
  have sixteen : (modelRegisters inventory).length ≤ 16 := List.length_take_le _ _
  rw [← modelRegisters, List.take_of_length_le (show (afterPadding (modelRegisters inventory)).length ≤ 33 - 1 by omega)]
    at model
  rw [modelString, srtReadInventory, if_neg (not_not_intro complete), firmware,
    ← modelRegisters, model, sku, serial]
  exact CBuffer.text_terminated 0 _ after

theorem infix_blank_end (pattern text : List Byte) (last : Byte) (visible : ∀ byte ∈ pattern, blank byte = false)
    (nonempty : pattern ≠ []) (strips : blank last = true) : pattern <:+: text ++ [last] ↔ pattern <:+: text := by
  rw [List.infix_concat_iff]
  refine or_iff_right fun suffix => ?_
  rcases List.suffix_concat_iff.mp suffix with empty | ⟨front, rfl, _⟩
  · exact nonempty empty
  · exact Bool.false_ne_true ((visible last (by simp)).symm.trans strips)

-- Trailing blanks are no part of an occurrence of a text without blanks.
theorem infix_trimmed (pattern text : List Byte) (visible : ∀ byte ∈ pattern, blank byte = false) (nonempty : pattern ≠ []) :
    pattern <:+: beforeNul (trimmed text) ↔ pattern <:+: beforeNul text := by
  induction text using List.reverseRecOn with
  | nil => rfl
  | append_singleton earlier last ih =>
    rw [trimmed]
    by_cases strips : blank last = true
    · rw [List.rdropWhile_concat_pos _ _ _ strips, ← trimmed, ih, beforeNul, beforeNul, List.takeWhile_append]
      split
      · rename_i whole
        rw [(List.takeWhile_prefix _).eq_of_length whole]
        by_cases zero : last = 0
        · rw [zero, List.takeWhile_cons_of_neg (by decide), List.append_nil]
        · rw [List.takeWhile_cons_of_pos (by simpa using zero), List.takeWhile_nil]
          exact (infix_blank_end pattern earlier last visible nonempty strips).symm
      · rfl
    · rw [List.rdropWhile_concat_neg _ _ _ strips]

theorem name_in_model_iff (inventory : List Register) (complete : inventory.length = srtRegInventoryLen) :
    (∃ model, modelString inventory = some model ∧ srtName <:+: model) ↔
      srtName <:+: beforeNul (afterPadding (modelRegisters inventory)) := by
  rw [model_string_text inventory complete]
  simp only [Option.some.injEq, exists_eq_left']
  exact infix_trimmed srtName _ (by decide) (by decide)

theorem detection_agrees_iff (inventory : List Register) (complete : inventory.length = srtRegInventoryLen) :
    DetectionAgrees inventory ↔ ¬HiddenByPadding (modelRegisters inventory) := by
  have sixteen : (modelRegisters inventory).length = 16 := by
    rw [modelRegisters, List.length_take, List.length_drop, complete]
    rfl
  rw [DetectionAgrees, detect_iff _ sixteen, name_in_model_iff inventory complete, HiddenByPadding]
  cases block : modelRegisters inventory with
  | nil =>
    rw [block] at sixteen
    cases sixteen
  | cons reg rest =>
    simp only [List.head?_cons, Option.some.injEq, exists_eq_left', block_bytes_cons]
    -- The raw bytes end at a NUL half of the first register: at most one stands before it.
    have unseen : highByte reg = 0 ∨ lowByte reg = 0 →
        ¬srtName <:+: beforeNul (highByte reg :: lowByte reg :: blockBytes rest) := by
      intro half found
      have short : (beforeNul (highByte reg :: lowByte reg :: blockBytes rest)).length ≤ 1 := by
        by_cases high : highByte reg = 0
        · rw [beforeNul, List.takeWhile_cons_of_neg (by simp [high])]
          exact Nat.zero_le 1
        · rw [beforeNul, List.takeWhile_cons_of_pos (by simpa using high),
            List.takeWhile_cons_of_neg (by simp [half.resolve_left high])]
          exact Nat.le_refl 1
      have long := found.length_le
      rw [show srtName.length = 3 from rfl] at long
      omega
    by_cases half : highByte reg = 0 ∨ lowByte reg = 0
    · simp only [half, unseen half, true_and, false_iff]
    · have nonzero : reg ≠ 0 := fun zero => half (Or.inl ((register_zero reg).mp zero).1)
      obtain ⟨high, low⟩ := not_or.mp half
      have whole : afterPadding (reg :: rest) = highByte reg :: lowByte reg :: blockBytes rest := by
        rw [after_padding_cons, if_neg nonzero, List.filter_cons_of_pos (by simpa using high),
          List.filter_cons_of_pos (by simpa using low), List.filter_nil]
        rfl
      rw [whole]
      exact iff_of_true Iff.rfl fun hidden => half hidden.1

def inventoryWith (model : List Register) : List Register :=
  List.replicate 16 0 ++ model ++ List.replicate (64 - model.length) 0x2020

-- "SRT1" behind one register of zeros: the inventory shows it, the probe does not.
theorem padded_srt_unclaimed :
    (inventoryWith [0, 0x5352, 0x5431]).length = srtRegInventoryLen ∧ ¬DetectionAgrees (inventoryWith [0, 0x5352, 0x5431]) := by
  refine ⟨by decide, ?_⟩
  intro agrees
  have shown : srtName <:+: (afterPadding (modelRegisters (inventoryWith [0, 0x5352, 0x5431]))).takeWhile (· != 0) := by
    decide
  have claimed := agrees.mpr ((name_in_model_iff _ (by decide)).mpr shown)
  exact absurd claimed (by decide)

theorem plain_srt_claimed :
    (inventoryWith [0x5352, 0x5431]).length = srtRegInventoryLen ∧ DetectionAgrees (inventoryWith [0x5352, 0x5431]) := by
  refine ⟨by decide, (detection_agrees_iff _ (by decide)).mpr ?_⟩
  rintro ⟨⟨reg, first, half⟩, _⟩
  obtain rfl := Option.some.inj (show some 0x5352 = some reg from first)
  exact absurd half (by decide)

end AiriesUps.Ups
