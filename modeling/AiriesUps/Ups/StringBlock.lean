import AiriesUps.Lib.CBuffer
import AiriesUps.Lib.PackedBits
import Mathlib.Data.List.DropRight

set_option autoImplicit false

namespace AiriesUps.Ups

open PackedBits (Byte)

abbrev Register := BitVec 16

def highByte (reg : Register) : Byte := (reg >>> 8).setWidth 8

def lowByte (reg : Register) : Byte := reg.setWidth 8

def blank (byte : Byte) : Bool := byte == 0x20 || byte == 0

-- The locals out and k of the decoder.
structure Decoding where
  out : List Byte
  k : Nat
deriving DecidableEq

-- out[k++] = byte
def Decoding.put (state : Decoding) (byte : Byte) : Option Decoding :=
  (CBuffer.store state.out state.k byte).map fun out => { out := out, k := state.k + 1 }

def decodeRegister (max : Nat) (state : Decoding) (reg : Register) : Option Decoding :=
  if state.k = 0 then
    (if highByte reg ≠ 0 then state.put (highByte reg) else some state).bind fun state =>
      if lowByte reg ≠ 0 ∧ state.k < max then state.put (lowByte reg) else some state
  else
    (state.put (highByte reg)).bind fun state => if state.k < max then state.put (lowByte reg) else some state

def decodeLoop (max : Nat) : List Register → Decoding → Option Decoding
  | [], state => some state
  | reg :: rest, state =>
    if state.k < max then (decodeRegister max state reg).bind (decodeLoop max rest) else some state

-- while (k > 0 && (out[k-1] == ' ' || out[k-1] == '\0')) out[--k] = '\0';
def stripEnd (out : List Byte) : Nat → Option Decoding
  | 0 => some { out := out, k := 0 }
  | k + 1 =>
    match out[k]? with
    | none => none
    | some byte =>
      if blank byte then (CBuffer.store out k 0).bind fun out => stripEnd out k else some { out := out, k := k + 1 }

-- The result is the buffer and the length k at the end, none where a byte outside
-- the buffer is read or written.
def strDecode (regs : List Register) (out : List Byte) (outsz : Nat) : Option Decoding :=
  let max := if CBuffer.sizeSub outsz 1 > regs.length * 2 then regs.length * 2 else CBuffer.sizeSub outsz 1
  (decodeLoop max regs { out := out, k := 0 }).bind fun state =>
    (CBuffer.store state.out state.k 0).bind fun out => stripEnd out state.k

def smtStrDecode (regs : List Register) (out : List Byte) (outsz : Nat) : Option Decoding := strDecode regs out outsz

def srtStrDecode (regs : List Register) (out : List Byte) (outsz : Nat) : Option Decoding := strDecode regs out outsz

def blockBytes (regs : List Register) : List Byte := regs.flatMap fun reg => [highByte reg, lowByte reg]

-- What the loop keeps of a block when there is room: the registers of NULs in front
-- are skipped, and from the next one its halves that are not NUL.
def afterPadding (regs : List Register) : List Byte :=
  match regs.dropWhile (· == 0) with
  | [] => []
  | reg :: rest => [highByte reg, lowByte reg].filter (· != 0) ++ blockBytes rest

def trimmed (text : List Byte) : List Byte := text.rdropWhile blank

structure Wrote (size : Nat) (written : List Byte) (state : Decoding) : Prop where
  k : state.k = written.length
  out : ∃ after, state.out = written ++ after
  size : state.out.length = size

theorem put_wrote (size : Nat) (written : List Byte) (state : Decoding) (byte : Byte) (wrote : Wrote size written state)
    (room : written.length < size) : ∃ next, state.put byte = some next ∧ Wrote size (written ++ [byte]) next := by
  obtain ⟨after, parts⟩ := wrote.out
  have length := wrote.size
  cases after with
  | nil =>
    rw [parts, List.append_nil] at length
    omega
  | cons old after =>
    have stored := CBuffer.store_split written old byte after
    rw [← parts] at stored
    refine ⟨{ out := written ++ byte :: after, k := state.k + 1 }, ?_, ?_, ⟨after, List.append_cons written byte after⟩, ?_⟩
    · rw [Decoding.put, wrote.k, stored, Option.map_some]
    · rw [wrote.k, List.length_append, List.length_singleton]
    · exact (CBuffer.store_length _ _ _ _ stored).trans length

-- A store that is made only below max cuts the text at max.
theorem put_below (size max : Nat) (written : List Byte) (state : Decoding) (byte : Byte) (wrote : Wrote size written state)
    (inside : max ≤ size) (below : written.length ≤ max) :
    ∃ next, (if state.k < max then state.put byte else some state) = some next ∧
      Wrote size ((written ++ [byte]).take max) next := by
  by_cases room : state.k < max
  · rw [if_pos room]
    rw [wrote.k] at room
    obtain ⟨next, stored, now⟩ := put_wrote size written state byte wrote (by omega)
    refine ⟨next, stored, ?_⟩
    rwa [List.take_of_length_le (by rw [List.length_append, List.length_singleton]; omega)]
  · rw [if_neg room]
    rw [wrote.k] at room
    refine ⟨state, rfl, ?_⟩
    rwa [List.take_left' (by omega)]

theorem decode_register_later (size max : Nat) (written : List Byte) (state : Decoding) (reg : Register)
    (wrote : Wrote size written state) (started : written ≠ []) (inside : max ≤ size) (room : written.length < max) :
    ∃ next, decodeRegister max state reg = some next ∧ Wrote size ((written ++ [highByte reg, lowByte reg]).take max) next := by
  have later : ¬state.k = 0 := by
    rw [wrote.k, List.length_eq_zero_iff]
    exact started
  obtain ⟨middle, first, between⟩ := put_wrote size written state (highByte reg) wrote (by omega)
  obtain ⟨next, second, now⟩ := put_below size max _ middle (lowByte reg) between inside
    (by rw [List.length_append, List.length_singleton]; omega)
  refine ⟨next, ?_, by rwa [List.append_assoc] at now⟩
  rw [decodeRegister, if_neg later, first, Option.bind_some, second]

theorem decode_loop_later (size max : Nat) (regs : List Register) (written : List Byte) (state : Decoding)
    (wrote : Wrote size written state) (started : written ≠ []) (inside : max ≤ size) (below : written.length ≤ max) :
    ∃ next, decodeLoop max regs state = some next ∧ Wrote size ((written ++ blockBytes regs).take max) next := by
  induction regs generalizing written state with
  | nil =>
    refine ⟨state, rfl, ?_⟩
    rwa [blockBytes, List.flatMap_nil, List.append_nil, List.take_of_length_le below]
  | cons reg rest ih =>
    rw [decodeLoop]
    by_cases room : state.k < max
    · rw [if_pos room]
      rw [wrote.k] at room
      obtain ⟨middle, decoded, between⟩ := decode_register_later size max written state reg wrote started inside room
      obtain ⟨next, later, now⟩ := ih _ middle between (by simpa [started] using fun zero => by omega)
        (List.length_take_le _ _)
      refine ⟨next, by rw [decoded, Option.bind_some, later], ?_⟩
      rwa [CBuffer.take_append_cut, List.append_assoc] at now
    · rw [if_neg room]
      rw [wrote.k] at room
      refine ⟨state, rfl, ?_⟩
      rwa [List.take_left' (by omega)]

theorem register_zero (reg : Register) : reg = 0 ↔ highByte reg = 0 ∧ lowByte reg = 0 := by
  constructor
  · rintro rfl
    exact ⟨rfl, rfl⟩
  · rintro ⟨high, low⟩
    refine BitVec.eq_of_getLsbD_eq fun index inside => ?_
    have highBit := congrArg (fun byte => byte.getLsbD (index - 8)) high
    have lowBit := congrArg (fun byte => byte.getLsbD index) low
    simp only [highByte, lowByte, BitVec.getLsbD_setWidth, BitVec.getLsbD_ushiftRight] at highBit lowBit
    by_cases upper : 8 ≤ index
    · rw [show 8 + (index - 8) = index by omega] at highBit
      simpa [show index - 8 < 8 by omega] using highBit
    · simpa [show index < 8 by omega] using lowBit

theorem decode_register_first (size max : Nat) (state : Decoding) (reg : Register) (wrote : Wrote size [] state)
    (inside : max ≤ size) (room : 0 < max) :
    ∃ next, decodeRegister max state reg = some next ∧
      Wrote size (([highByte reg, lowByte reg].filter (· != 0)).take max) next := by
  have start : state.k = 0 := wrote.k
  rw [decodeRegister, if_pos start]
  by_cases high : highByte reg = 0
  · rw [if_neg (not_not_intro high), Option.bind_some]
    by_cases low : lowByte reg = 0
    · rw [if_neg fun both => both.1 low]
      exact ⟨state, rfl, by simpa [high, low] using wrote⟩
    · obtain ⟨next, stored, now⟩ := put_wrote size [] state (lowByte reg) wrote (by rw [List.length_nil]; omega)
      rw [if_pos ⟨low, by rw [wrote.k]; exact room⟩]
      refine ⟨next, stored, ?_⟩
      rwa [List.filter_cons_of_neg (by simp [high]), List.filter_cons_of_pos (by simpa using low), List.filter_nil,
        List.take_of_length_le room]
  · obtain ⟨middle, stored, between⟩ := put_wrote size [] state (highByte reg) wrote (by rw [List.length_nil]; omega)
    rw [if_pos high, stored, Option.bind_some, List.filter_cons_of_pos (by simpa using high)]
    by_cases low : lowByte reg = 0
    · rw [if_neg fun both => both.1 low, List.filter_cons_of_neg (by simp [low]), List.filter_nil,
        List.take_of_length_le room]
      exact ⟨middle, rfl, between⟩
    · rw [List.filter_cons_of_pos (by simpa using low), List.filter_nil]
      simp only [low, ne_eq, not_false_eq_true, true_and]
      exact put_below size max _ middle (lowByte reg) between inside room

theorem after_padding_cons (reg : Register) (rest : List Register) :
    afterPadding (reg :: rest) =
      if reg = 0 then afterPadding rest else [highByte reg, lowByte reg].filter (· != 0) ++ blockBytes rest := by
  by_cases padding : reg = 0
  · rw [afterPadding, List.dropWhile_cons_of_pos (by simp [padding]), if_pos padding, afterPadding]
  · rw [afterPadding, List.dropWhile_cons_of_neg (by simpa using padding), if_neg padding]

theorem decode_loop_wrote (size max : Nat) (regs : List Register) (state : Decoding) (wrote : Wrote size [] state)
    (inside : max ≤ size) :
    ∃ next, decodeLoop max regs state = some next ∧ Wrote size ((afterPadding regs).take max) next := by
  induction regs generalizing state with
  | nil => exact ⟨state, rfl, by rwa [afterPadding, List.dropWhile_nil, List.take_nil]⟩
  | cons reg rest ih =>
    have start : state.k = 0 := wrote.k
    rw [decodeLoop, start]
    by_cases room : 0 < max
    · obtain ⟨middle, decoded, between⟩ := decode_register_first size max state reg wrote inside room
      rw [if_pos room, decoded, Option.bind_some, after_padding_cons]
      by_cases padding : reg = 0
      · rw [if_pos padding]
        obtain ⟨high, low⟩ := (register_zero reg).mp padding
        exact ih middle (by simpa [high, low] using between)
      · have started : ([highByte reg, lowByte reg].filter (· != 0)).take max ≠ [] := by
          rw [ne_eq, List.take_eq_nil_iff, not_or]
          refine ⟨by omega, fun none => padding ((register_zero reg).mpr ?_)⟩
          simpa [List.filter_eq_nil_iff] using none
        obtain ⟨next, later, now⟩ := decode_loop_later size max rest _ middle between started inside (List.length_take_le _ _)
        rw [if_neg padding]
        exact ⟨next, later, by rwa [CBuffer.take_append_cut] at now⟩
    · rw [if_neg room]
      exact ⟨state, rfl, by rwa [show max = 0 by omega, List.take_zero]⟩

theorem after_padding_length (regs : List Register) : (afterPadding regs).length ≤ regs.length * 2 := by
  have whole : ∀ regs, (blockBytes regs).length = regs.length * 2 := by
    intro regs
    induction regs with
    | nil => rfl
    | cons reg rest ih =>
      rw [blockBytes, List.flatMap_cons, List.length_append, ← blockBytes, ih]
      simp only [List.length_cons, List.length_nil]
      omega
  induction regs with
  | nil => exact Nat.le_refl 0
  | cons reg rest ih =>
    rw [after_padding_cons, List.length_cons]
    split
    · omega
    · have few := List.length_filter_le (· != 0) [highByte reg, lowByte reg]
      rw [List.length_append, whole]
      simp only [List.length_cons, List.length_nil] at few
      omega

theorem strip_end (written after : List Byte) :
    ∃ later, stripEnd (written ++ 0 :: after) written.length =
        some { out := trimmed written ++ 0 :: later, k := (trimmed written).length } ∧
      (trimmed written ++ 0 :: later).length = (written ++ 0 :: after).length := by
  induction written using List.reverseRecOn generalizing after with
  | nil => exact ⟨after, rfl, rfl⟩
  | append_singleton earlier last ih =>
    have at' : (earlier ++ [last] ++ 0 :: after)[earlier.length]? = some last := by simp
    rw [List.length_append, List.length_singleton, stripEnd, at', trimmed]
    by_cases strips : blank last = true
    · have stored := CBuffer.store_split earlier last 0 (0 :: after)
      rw [List.append_cons] at stored
      obtain ⟨later, stripped, length⟩ := ih (0 :: after)
      refine ⟨later, ?_, ?_⟩
      · simp only [if_pos strips, stored, Option.bind_some, List.rdropWhile_concat_pos _ _ _ strips]
        exact stripped
      · rw [List.rdropWhile_concat_pos _ _ _ strips]
        exact length.trans (by simp)
    · refine ⟨after, ?_, ?_⟩
      · simp only [if_neg strips, List.rdropWhile_concat_neg _ _ _ strips, List.length_append, List.length_singleton]
      · rw [List.rdropWhile_concat_neg _ _ _ strips]

-- The function on every block and every buffer of at least one byte.
theorem str_decode_text (regs : List Register) (out : List Byte) (nonempty : 1 ≤ out.length) :
    ∃ after, strDecode regs out out.length =
        some { out := trimmed ((afterPadding regs).take (out.length - 1)) ++ 0 :: after
               k := (trimmed ((afterPadding regs).take (out.length - 1))).length } ∧
      (trimmed ((afterPadding regs).take (out.length - 1)) ++ 0 :: after).length = out.length := by
  have limit : (afterPadding regs).take (if out.length - 1 > regs.length * 2 then regs.length * 2 else out.length - 1) =
      (afterPadding regs).take (out.length - 1) := by
    split
    · have bound := after_padding_length regs
      rw [List.take_of_length_le bound, List.take_of_length_le (by omega)]
    · rfl
  have inside : (if out.length - 1 > regs.length * 2 then regs.length * 2 else out.length - 1) ≤ out.length - 1 := by
    split <;> omega
  obtain ⟨state, decoded, wrote⟩ := decode_loop_wrote out.length _ regs { out := out, k := 0 }
    ⟨rfl, ⟨out, rfl⟩, rfl⟩ (inside.trans (Nat.sub_le _ _))
  rw [limit] at wrote
  obtain ⟨after, parts⟩ := wrote.out
  have size := wrote.size
  have short : ((afterPadding regs).take (out.length - 1)).length ≤ out.length - 1 := List.length_take_le _ _
  cases after with
  | nil =>
    rw [parts, List.append_nil] at size
    omega
  | cons old after =>
    obtain ⟨later, stripped, length⟩ := strip_end ((afterPadding regs).take (out.length - 1)) after
    refine ⟨later, ?_, ?_⟩
    · simp only [strDecode, CBuffer.size_sub_le _ _ nonempty, decoded, Option.bind_some, wrote.k]
      rw [parts, CBuffer.store_split, Option.bind_some]
      exact stripped
    · refine length.trans (Eq.trans ?_ size)
      rw [parts, List.length_append, List.length_append, List.length_cons, List.length_cons]

-- The text the block stands for: all its bytes without the NULs in front.
def BlockDecoded (decode : List Register → List Byte → Nat → Option Decoding) (regs : List Register) (out : List Byte) : Prop :=
  let text := trimmed (((blockBytes regs).dropWhile (· == 0)).take (out.length - 1))
  ∃ after, decode regs out out.length = some { out := text ++ 0 :: after, k := text.length } ∧
    (text ++ 0 :: after).length = out.length

-- The first register with a character has a NUL as its second half, and a byte that
-- ends up in the text follows.
def SecondHalfLost (regs : List Register) (outsz : Nat) : Prop :=
  ∃ reg rest, regs.dropWhile (· == 0) = reg :: rest ∧ lowByte reg = 0 ∧
    ∃ byte ∈ (blockBytes rest).take (outsz - 2), blank byte = false

theorem trimmed_cons (byte : Byte) (text : List Byte) :
    trimmed (byte :: text) = if trimmed text = [] then trimmed [byte] else byte :: trimmed text := by
  induction text using List.reverseRecOn with
  | nil => rfl
  | append_singleton earlier last ih =>
    rw [trimmed, trimmed, ← List.cons_append]
    by_cases strips : blank last = true
    · rw [List.rdropWhile_concat_pos _ _ _ strips, List.rdropWhile_concat_pos _ _ _ strips]
      exact ih
    · rw [List.rdropWhile_concat_neg _ _ _ strips, List.rdropWhile_concat_neg _ _ _ strips, if_neg (by simp),
        List.cons_append]

theorem trimmed_nil_iff (text : List Byte) : trimmed text = [] ↔ ∀ byte ∈ text, blank byte = true :=
  List.rdropWhile_eq_nil_iff

-- A text that starts a list and the list one cell later is made of that cell.
theorem prefix_shifted (byte : Byte) (text bytes : List Byte) (first : text <+: bytes) (shifted : text <+: byte :: bytes) :
    ∀ member ∈ text, member = byte := by
  induction text generalizing byte bytes with
  | nil => exact fun _ member => by cases member
  | cons head tail ih =>
    obtain ⟨rfl, tailPrefix⟩ := List.cons_prefix_cons.mp shifted
    obtain ⟨rest, rfl⟩ := first
    intro member present
    rcases List.mem_cons.mp present with rfl | later
    · rfl
    · exact ih head (tail ++ rest) ⟨rest, rfl⟩ tailPrefix member later

-- One NUL more after the first character is seen exactly where a character follows.
theorem trimmed_hole (byte : Byte) (rest : List Byte) (room : Nat) :
    trimmed ((byte :: 0 :: rest).take room) = trimmed ((byte :: rest).take room) ↔
      ∀ later ∈ rest.take (room - 1), blank later = true := by
  cases room with
  | zero => simp
  | succ room =>
    rw [List.take_succ_cons, List.take_succ_cons, Nat.add_sub_cancel, trimmed_cons byte (List.take _ (0 :: _)),
      trimmed_cons byte (List.take _ rest), ← trimmed_nil_iff]
    constructor
    · intro same
      by_contra kept
      rw [if_neg kept] at same
      by_cases blankHole : trimmed ((0 :: rest).take room) = []
      · have short := List.rdropWhile_prefix blank [byte] |>.length_le
        rw [if_pos blankHole] at same
        rw [← trimmed, same, List.length_cons, List.length_singleton] at short
        exact kept (List.length_eq_zero_iff.mp (by omega))
      · rw [if_neg blankHole] at same
        have texts := (List.cons.inj same).2
        have inRest : trimmed (rest.take room) <+: rest :=
          (List.rdropWhile_prefix blank _).trans (List.take_prefix room rest)
        have inHole : trimmed (rest.take room) <+: 0 :: rest := by
          rw [← texts]
          exact (List.rdropWhile_prefix blank _).trans (List.take_prefix room _)
        have zeros := prefix_shifted 0 _ rest inRest inHole
        have last := List.rdropWhile_last_not blank (rest.take room) kept
        exact last (congrArg blank (zeros _ (List.getLast_mem kept)))
    · intro kept
      have hole : trimmed ((0 :: rest).take room) = [] := by
        rw [trimmed_nil_iff] at kept ⊢
        intro later member
        cases room with
        | zero => cases member
        | succ room =>
          rw [List.take_succ_cons] at member
          rcases List.mem_cons.mp member with rfl | member
          · rfl
          · exact kept later (List.take_subset_take_left _ (Nat.le_succ room) member)
      rw [if_pos hole, if_pos kept]

theorem block_bytes_cons (reg : Register) (rest : List Register) :
    blockBytes (reg :: rest) = highByte reg :: lowByte reg :: blockBytes rest := rfl

theorem block_bytes_drop (regs : List Register) :
    (blockBytes regs).dropWhile (· == 0) =
      match regs.dropWhile (· == 0) with
      | [] => []
      | reg :: rest => ([highByte reg, lowByte reg].dropWhile (· == 0)) ++ blockBytes rest := by
  induction regs with
  | nil => rfl
  | cons reg rest ih =>
    by_cases padding : reg = 0
    · obtain ⟨high, low⟩ := (register_zero reg).mp padding
      rw [block_bytes_cons, List.dropWhile_cons_of_pos (by simp [high]), List.dropWhile_cons_of_pos (by simp [low]), ih,
        List.dropWhile_cons_of_pos (by simp [padding])]
    · rw [List.dropWhile_cons_of_neg (by simpa using padding)]
      dsimp only
      rw [block_bytes_cons]
      by_cases high : highByte reg = 0
      · have low : lowByte reg ≠ 0 := fun low => padding ((register_zero reg).mpr ⟨high, low⟩)
        rw [List.dropWhile_cons_of_pos (by simp [high]), List.dropWhile_cons_of_neg (by simpa using low),
          List.dropWhile_cons_of_pos (by simp [high]), List.dropWhile_cons_of_neg (by simpa using low)]
        rfl
      · rw [List.dropWhile_cons_of_neg (by simpa using high), List.dropWhile_cons_of_neg (by simpa using high)]
        rfl

theorem kept_text_iff (regs : List Register) (outsz : Nat) :
    trimmed (((blockBytes regs).dropWhile (· == 0)).take (outsz - 1)) = trimmed ((afterPadding regs).take (outsz - 1)) ↔
      ¬SecondHalfLost regs outsz := by
  rw [block_bytes_drop, afterPadding, SecondHalfLost]
  cases start : regs.dropWhile (· == 0) with
  | nil => simp
  | cons reg rest =>
    have nonzero : ¬reg = 0 := by
      have head := List.head?_dropWhile_not (· == 0) regs
      rw [start, List.head?_cons] at head
      simpa using head
    dsimp only
    by_cases low : lowByte reg = 0
    · have high : highByte reg ≠ 0 := fun high => nonzero ((register_zero reg).mpr ⟨high, low⟩)
      rw [List.dropWhile_cons_of_neg (by simpa using high), List.filter_cons_of_pos (by simpa using high),
        List.filter_cons_of_neg (by simp [low]), List.filter_nil, low]
      refine (trimmed_hole (highByte reg) (blockBytes rest) (outsz - 1)).trans ?_
      rw [Nat.sub_sub]
      constructor
      · rintro every ⟨_, _, parts, _, byte, member, kept⟩
        obtain ⟨rfl, rfl⟩ := List.cons.inj parts
        exact Bool.false_ne_true (kept.symm.trans (every byte member))
      · intro none byte member
        by_contra kept
        exact none ⟨reg, rest, rfl, low, byte, member, Bool.eq_false_iff.mpr kept⟩
    · refine iff_of_true ?_ ?_
      · by_cases high : highByte reg = 0
        · rw [List.dropWhile_cons_of_pos (by simp [high]), List.dropWhile_cons_of_neg (by simpa using low),
            List.filter_cons_of_neg (by simp [high]), List.filter_cons_of_pos (by simpa using low), List.filter_nil]
        · rw [List.dropWhile_cons_of_neg (by simpa using high), List.filter_cons_of_pos (by simpa using high),
            List.filter_cons_of_pos (by simpa using low), List.filter_nil]
      · rintro ⟨_, _, parts, lost, _⟩
        obtain ⟨rfl, rfl⟩ := List.cons.inj parts
        exact low lost

theorem str_decode_iff (regs : List Register) (out : List Byte) (nonempty : 1 ≤ out.length) :
    BlockDecoded strDecode regs out ↔ ¬SecondHalfLost regs out.length := by
  obtain ⟨after, decoded, length⟩ := str_decode_text regs out nonempty
  rw [← kept_text_iff, BlockDecoded, decoded]
  constructor
  · rintro ⟨later, same, _⟩
    have states := Option.some.inj same
    have texts := congrArg (fun state => state.out.take state.k) states
    simpa only [List.take_left'] using texts.symm
  · intro same
    rw [same]
    exact ⟨after, rfl, length⟩

theorem string_blocks_decoded_iff (regs : List Register) (out : List Byte) (nonempty : 1 ≤ out.length) :
    BlockDecoded smtStrDecode regs out ∧ BlockDecoded srtStrDecode regs out ↔ ¬SecondHalfLost regs out.length := by
  rw [← str_decode_iff regs out nonempty]
  exact and_self_iff

-- "A", NUL and "BC": the NUL is dropped and the text becomes "ABC".
theorem inner_nul_dropped :
    1 ≤ (List.replicate 8 (0 : Byte)).length ∧
      ¬(BlockDecoded smtStrDecode [0x4100, 0x4243] (List.replicate 8 0) ∧
        BlockDecoded srtStrDecode [0x4100, 0x4243] (List.replicate 8 0)) := by
  refine ⟨by decide, ?_⟩
  rintro ⟨⟨after, decoded, _⟩, _⟩
  have three : (smtStrDecode [0x4100, 0x4243] (List.replicate 8 0) 8).map Decoding.k = some 3 := by decide
  have four : (trimmed (((blockBytes [0x4100, 0x4243]).dropWhile (· == 0)).take 7)).length = 4 := by decide
  exact absurd (four.symm.trans (Option.some.inj ((congrArg (Option.map Decoding.k) decoded).symm.trans three))) (by decide)

-- A zero register and a NUL in front of "SRT 1000", padded with spaces.
def paddedModel : List Register := [0, 0x0053, 0x5254, 0x2031, 0x3030, 0x3020, 0x2020]

theorem padded_model_decoded :
    1 ≤ (List.replicate 33 (0 : Byte)).length ∧
      BlockDecoded smtStrDecode paddedModel (List.replicate 33 0) ∧
        BlockDecoded srtStrDecode paddedModel (List.replicate 33 0) := by
  refine ⟨by decide, (string_blocks_decoded_iff paddedModel _ (by decide)).mpr ?_⟩
  rintro ⟨reg, rest, parts, low, _⟩
  obtain ⟨rfl, _⟩ := List.cons.inj (show 0x0053 :: [0x5254, 0x2031, 0x3030, 0x3020, 0x2020] = reg :: rest from parts)
  exact absurd low (by decide)

end AiriesUps.Ups
