import AiriesUps.Lib.CBuffer
import AiriesUps.Ups.Data

set_option autoImplicit false

namespace AiriesUps.Ups

-- A C string is the list of its bytes; the buffer holds one byte more.
def nul : Char := '\x00'

structure StatusFlag where
  bit : Word
  name : String

def statusFlags : List StatusFlag :=
  [{ bit := stOnline, name := "Online" }, { bit := stOnBattery, name := "OnBattery" },
    { bit := stBypass, name := "Bypass" }, { bit := stOutputOff, name := "OutputOff" },
    { bit := stFault, name := "Fault" }, { bit := stInputBad, name := "InputBad" },
    { bit := stTest, name := "SelfTest" }, { bit := stPendingOn, name := "PendingOn" },
    { bit := stShutPending, name := "ShutdownPending" }, { bit := stCommanded, name := "Commanded" },
    { bit := stHeMode, name := "HighEfficiency" }, { bit := stInfoAlert, name := "InfoAlert" },
    { bit := stFaultState, name := "FaultState" }, { bit := stMainsBad, name := "MainsBad" },
    { bit := stFaultRecovery, name := "FaultRecovery" }, { bit := stOverload, name := "Overload" }]

-- strncat(buf, source, len - strlen(buf) - 1)
def appendWithin (len : Nat) (buffer : List Char) (source : String) : Option (List Char) :=
  (CBuffer.text nul buffer).bind fun held =>
    CBuffer.strncat nul buffer source.toList (CBuffer.sizeSub (CBuffer.sizeSub len held.length) 1)

def appendFlag (status : Word) (len : Nat) (buffer : List Char) (flag : StatusFlag) : Option (List Char) :=
  if has status flag.bit then
    (if buffer.head? = some nul then some buffer else appendWithin len buffer " ").bind fun separated =>
      appendWithin len separated flag.name
  else some buffer

def appendFlags (status : Word) (len : Nat) : List StatusFlag → List Char → Option (List Char)
  | [], buffer => some buffer
  | flag :: rest, buffer => (appendFlag status len buffer flag).bind (appendFlags status len rest)

-- The buffer after the call, none where a byte outside it would be written.
def upsStatusStr (status : Word) (buffer : List Char) (len : Nat) : Option (List Char) :=
  (CBuffer.store buffer 0 nul).bind fun cleared =>
    (appendFlags status len statusFlags cleared).bind fun named =>
      if named.head? = some nul then CBuffer.strncpy nul named "Unknown".toList (CBuffer.sizeSub len 1) else some named

def statusNames (status : Word) (flags : List StatusFlag) : List String :=
  (flags.filter fun flag => has status flag.bit).map StatusFlag.name

def joined (names : List String) : List Char := List.intercalate [' '] (names.map String.toList)

def statusText (status : Word) : List Char :=
  if statusNames status statusFlags = [] then "Unknown".toList else joined (statusNames status statusFlags)

def Rendered (status : Word) (buffer : List Char) : Prop :=
  ∃ next, upsStatusStr status buffer buffer.length = some next ∧ next.length = buffer.length ∧
    CBuffer.text nul next = some ((statusText status).take (buffer.length - 1))

-- A name adds to the text whatever the text is: it is not empty and holds no NUL.
def StatusFlag.Plain (flag : StatusFlag) : Prop := flag.name.toList ≠ [] ∧ nul ∉ flag.name.toList

def Shows (len : Nat) (names : List String) (buffer : List Char) : Prop :=
  buffer.length = len ∧ CBuffer.text nul buffer = some ((joined names).take (len - 1))

theorem append_within_shows (len : Nat) (buffer held : List Char) (source : String) (size : buffer.length = len)
    (found : CBuffer.text nul buffer = some (held.take (len - 1))) (plain : nul ∉ source.toList) :
    ∃ next, appendWithin len buffer source = some next ∧ next.length = len ∧
      CBuffer.text nul next = some ((held ++ source.toList).take (len - 1)) := by
  subst size
  obtain ⟨next, stored, length, text⟩ := CBuffer.strncat_bounded nul buffer _ source.toList found plain
  refine ⟨next, ?_, length, ?_⟩
  · rw [appendWithin, found, Option.bind_some]
    exact stored
  · rw [text, CBuffer.take_append_cut]

theorem head_nul_iff (buffer held : List Char) (found : CBuffer.text nul buffer = some held) :
    buffer.head? = some nul ↔ held = [] := by
  obtain ⟨plain, rest, rfl⟩ := (CBuffer.text_eq_some_iff nul buffer held).mp found
  cases held with
  | nil => simp
  | cons first held =>
    simp only [List.cons_append, List.head?_cons, Option.some.injEq, reduceCtorEq, iff_false]
    rintro rfl
    exact plain List.mem_cons_self

theorem joined_concat (names : List String) (name : String) (some : names ≠ []) :
    joined (names ++ [name]) = joined names ++ " ".toList ++ name.toList := by
  induction names with
  | nil => exact absurd rfl some
  | cons first rest ih =>
    cases rest with
    | nil => simp [joined]
    | cons second rest =>
      have later := ih (List.cons_ne_nil second rest)
      simp only [joined, List.cons_append, List.map_cons, List.intercalate_cons_cons] at later ⊢
      rw [later]
      simp only [List.append_assoc]

theorem append_flag_shows (status : Word) (len : Nat) (flag : StatusFlag) (names : List String) (buffer : List Char)
    (room : 2 ≤ len) (shows : Shows len names buffer) (named : names = [] ∨ joined names ≠ []) (plain : flag.Plain)
    (set : has status flag.bit = true) :
    ∃ next, appendFlag status len buffer flag = some next ∧ Shows len (names ++ [flag.name]) next := by
  obtain ⟨size, text⟩ := shows
  rw [appendFlag, if_pos set]
  rcases named with rfl | nonempty
  · have empty : buffer.head? = some nul := (head_nul_iff buffer _ text).mpr List.take_nil
    obtain ⟨next, stored, length, now⟩ := append_within_shows len buffer [] flag.name size text plain.2
    rw [if_pos empty, Option.bind_some]
    exact ⟨next, stored, length, by simpa [joined] using now⟩
  · have held : ¬buffer.head? = some nul := by
      rw [head_nul_iff buffer _ text, List.take_eq_nil_iff, not_or]
      exact ⟨by omega, nonempty⟩
    obtain ⟨separated, first, length, between⟩ := append_within_shows len buffer (joined names) " " size text (by decide)
    obtain ⟨next, second, lengthNext, now⟩ := append_within_shows len separated _ flag.name length between plain.2
    rw [if_neg held, first, Option.bind_some]
    refine ⟨next, second, lengthNext, ?_⟩
    rw [now, joined_concat]
    rintro rfl
    exact nonempty rfl

theorem joined_nonempty (names : List String) (name : String) (plain : name.toList ≠ []) : joined (names ++ [name]) ≠ [] := by
  cases names with
  | nil => simpa [joined] using plain
  | cons first rest =>
    rw [joined_concat _ _ (List.cons_ne_nil first rest)]
    simp

theorem append_flags_shows (status : Word) (len : Nat) (flags : List StatusFlag) (names : List String) (buffer : List Char)
    (room : 2 ≤ len) (shows : Shows len names buffer) (named : names = [] ∨ joined names ≠ [])
    (plain : ∀ flag ∈ flags, flag.Plain) :
    ∃ next, appendFlags status len flags buffer = some next ∧ Shows len (names ++ statusNames status flags) next := by
  induction flags generalizing names buffer with
  | nil =>
    refine ⟨buffer, rfl, ?_⟩
    rw [statusNames, List.filter_nil, List.map_nil, List.append_nil]
    exact shows
  | cons flag rest ih =>
    have plainRest : ∀ flag ∈ rest, flag.Plain := fun flag member => plain flag (List.mem_cons_of_mem _ member)
    rw [appendFlags]
    cases set : has status flag.bit with
    | false =>
      have skipped : appendFlag status len buffer flag = some buffer := by rw [appendFlag, if_neg (by simp [set])]
      rw [skipped, Option.bind_some]
      have later := ih names buffer shows named plainRest
      rwa [statusNames, List.filter_cons_of_neg (by simp [set])]
    | true =>
      obtain ⟨next, appended, now⟩ := append_flag_shows status len flag names buffer room shows named
        (plain flag List.mem_cons_self) set
      rw [appended, Option.bind_some]
      have later := ih (names ++ [flag.name]) next now
        (Or.inr (joined_nonempty names flag.name (plain flag List.mem_cons_self).1)) plainRest
      rwa [statusNames, List.filter_cons_of_pos (by simp [set]), List.map_cons, List.append_cons]

theorem status_flags_plain : ∀ flag ∈ statusFlags, flag.Plain := by
  intro flag member
  simp only [statusFlags, List.mem_cons, List.not_mem_nil, or_false] at member
  rcases member with rfl | rfl | rfl | rfl | rfl | rfl | rfl | rfl | rfl | rfl | rfl | rfl | rfl | rfl | rfl | rfl <;>
    exact ⟨by decide, by decide⟩

theorem append_flags_unset (status : Word) (len : Nat) (flags : List StatusFlag) (buffer : List Char)
    (unset : ∀ flag ∈ flags, has status flag.bit = false) : appendFlags status len flags buffer = some buffer := by
  induction flags with
  | nil => rfl
  | cons flag rest ih =>
    rw [appendFlags, appendFlag, if_neg (by simp [unset flag List.mem_cons_self]), Option.bind_some]
    exact ih fun flag member => unset flag (List.mem_cons_of_mem _ member)

theorem status_names_nil (status : Word) (flags : List StatusFlag) :
    statusNames status flags = [] ↔ ∀ flag ∈ flags, has status flag.bit = false := by
  simp only [statusNames, List.map_eq_nil_iff, List.filter_eq_nil_iff, Bool.not_eq_true]

theorem rendered_named (status : Word) (first : Char) (rest : List Char) (room : 2 ≤ (first :: rest).length)
    (some : statusNames status statusFlags ≠ []) : Rendered status (first :: rest) := by
  have cleared : Shows (first :: rest).length [] (nul :: rest) := by
    refine ⟨rfl, ?_⟩
    rw [show (joined []).take _ = [] from List.take_nil]
    exact (CBuffer.text_eq_some_iff nul _ _).mpr ⟨List.not_mem_nil, rest, rfl⟩
  obtain ⟨next, named, length, text⟩ := append_flags_shows status _ statusFlags [] (nul :: rest) room cleared
    (Or.inl rfl) status_flags_plain
  rw [List.nil_append] at text
  have filled : ¬next.head? = Option.some nul := by
    rw [head_nul_iff next _ text, List.take_eq_nil_iff, not_or]
    refine ⟨by omega, ?_⟩
    obtain ⟨earlier, name, split⟩ := List.eq_nil_or_concat _ |>.resolve_left some
    obtain ⟨flag, member, rfl⟩ := List.mem_map.mp (show name ∈ statusNames status statusFlags by rw [split]; simp)
    rw [split, List.concat_eq_append]
    exact joined_nonempty earlier flag.name (status_flags_plain flag (List.mem_filter.mp member).1).1
  refine ⟨next, ?_, length, by rw [text, statusText, if_neg some]⟩
  rw [upsStatusStr, CBuffer.store_first, Option.bind_some, named,
    Option.bind_some, if_neg filled]

-- No known bit: the fallback copy is all that is written after the first byte.
theorem status_str_unknown (status : Word) (first : Char) (rest : List Char)
    (unset : ∀ flag ∈ statusFlags, has status flag.bit = false) :
    upsStatusStr status (first :: rest) (first :: rest).length =
      CBuffer.strncpy nul (nul :: rest) "Unknown".toList rest.length := by
  rw [upsStatusStr, CBuffer.store_first, Option.bind_some,
    append_flags_unset status _ statusFlags (nul :: rest) unset, Option.bind_some, if_pos List.head?_cons,
    List.length_cons, CBuffer.size_sub_le _ _ (Nat.le_add_left 1 rest.length), Nat.add_sub_cancel]

theorem rendered_unknown_iff (status : Word) (first : Char) (rest : List Char) (contract : 7 ≤ rest.length)
    (unset : ∀ flag ∈ statusFlags, has status flag.bit = false) :
    Rendered status (first :: rest) ↔ 7 < rest.length ∨ rest[6]? = some nul := by
  have fallback : (statusText status).take ((first :: rest).length - 1) = "Unknown".toList := by
    rw [statusText, if_pos ((status_names_nil status statusFlags).mpr unset)]
    exact List.take_of_length_le contract
  rw [Rendered, status_str_unknown status first rest unset, fallback]
  by_cases longer : 7 < rest.length
  · obtain ⟨next, copied, text⟩ := CBuffer.strncpy_short nul (nul :: rest) "Unknown".toList rest.length (by decide)
      longer (Nat.le_succ _)
    exact iff_of_true ⟨next, copied, CBuffer.store_all_length (nul :: rest) _ _ _ copied, text⟩ (Or.inl longer)
  · have exact7 : rest.length = 7 := by omega
    have copied := CBuffer.strncpy_exact nul (nul :: rest) "Unknown".toList (Nat.le_succ_of_le contract)
    obtain ⟨last, single⟩ : ∃ last, rest.drop 6 = [last] := List.length_eq_one_iff.mp (by rw [List.length_drop, exact7])
    have seventh : rest[6]? = some last := by rw [← List.head?_drop, single, List.head?_cons]
    have left : (nul :: rest).drop "Unknown".toList.length = [last] := single
    rw [left] at copied
    rw [or_iff_right longer, seventh, show rest.length = "Unknown".toList.length from exact7, copied]
    simp only [Option.some.injEq, exists_eq_left']
    rw [CBuffer.text_eq_some_iff]
    constructor
    · rintro ⟨_, _, after, parts⟩
      exact (List.cons.inj (List.append_cancel_left parts)).1
    · rintro rfl
      exact ⟨congrArg Nat.succ exact7.symm, by decide, [], rfl⟩

theorem status_str_rendered_iff (status : Word) (buffer : List Char) (contract : 8 ≤ buffer.length) :
    Rendered status buffer ↔
      ¬((∀ flag ∈ statusFlags, has status flag.bit = false) ∧ buffer.length = 8 ∧ buffer[7]? ≠ some nul) := by
  cases buffer with
  | nil => cases contract
  | cons first rest =>
    rw [List.length_cons] at contract
    by_cases unset : ∀ flag ∈ statusFlags, has status flag.bit = false
    · rw [rendered_unknown_iff status first rest (by omega) unset, List.getElem?_cons_succ, List.length_cons]
      constructor
      · rintro fits ⟨_, smallest, open'⟩
        rcases fits with longer | ended
        · omega
        · exact open' ended
      · intro fits
        by_cases longer : 7 < rest.length
        · exact Or.inl longer
        · refine Or.inr (by_contra fun open' => fits ⟨unset, by omega, open'⟩)
    · refine iff_of_true (rendered_named status first rest (by rw [List.length_cons]; omega) ?_) fun absent => unset absent.1
      exact fun none => unset ((status_names_nil status statusFlags).mp none)

-- The smallest buffer, full of other text: "Unknown" is left without its terminator.
theorem unknown_unterminated : 8 ≤ (List.replicate 8 'x').length ∧ ¬Rendered 0 (List.replicate 8 'x') := by
  refine ⟨by decide, ?_⟩
  rintro ⟨next, written, _, text⟩
  have copied : upsStatusStr 0 (List.replicate 8 'x') 8 = some "Unknownx".toList := by decide
  obtain rfl := Option.some.inj (copied.symm.trans written)
  exact absurd text (by decide)

theorem online_rendered : 8 ≤ (List.replicate 8 'x').length ∧ Rendered (stOnline ||| stOnBattery) (List.replicate 8 'x') := by
  refine ⟨by decide, (status_str_rendered_iff _ _ (by decide)).mpr ?_⟩
  rintro ⟨unset, _⟩
  exact absurd (unset { bit := stOnline, name := "Online" } List.mem_cons_self) (by decide)

end AiriesUps.Ups
