import AiriesUps.Lib.CBuffer
import AiriesUps.Weather.Assess

set_option autoImplicit false

namespace AiriesUps.Weather

def nul : Char := '\x00'

def reasonsSize : Nat := 512

def intMax : Nat := 2 ^ 31 - 1

-- What %s prints of a string.
def printed (text : String) : List Char := text.toList.takeWhile fun char => char ≠ nul

-- What snprintf returns: the length of the whole text, or an error where that is no int.
def snprintfResult (length : Nat) : Int := if length ≤ intMax then length else -1

-- One call of snprintf: where it writes, the size it is given, the position after it.
structure Call where
  position : BitVec 64
  room : BitVec 64
  after : BitVec 64
deriving DecidableEq

-- The subtraction did not wrap, and the position is inside before and after.
structure Call.Sound (call : Call) : Prop where
  position : call.position.toNat ≤ reasonsSize
  room : call.room.toNat + call.position.toNat = reasonsSize
  after : call.after.toNat ≤ reasonsSize

-- The buffer and rpos while the reasons are put together, and the calls made so far.
structure Assembly where
  buffer : List Char
  rpos : BitVec 64
  calls : List Call
deriving DecidableEq

def Assembly.room (state : Assembly) : BitVec 64 := BitVec.ofNat 64 reasonsSize - state.rpos

def Assembly.write (state : Assembly) (text : List Char) (after : BitVec 64) : Option Assembly :=
  (CBuffer.snprintf nul state.buffer state.rpos.toNat state.room.toNat text).map fun buffer =>
    { buffer := buffer, rpos := after, calls := state.calls ++ [⟨state.rpos, state.room, after⟩] }

-- rpos += (size_t)snprintf(reasons + rpos, reasons_sz - rpos, ...)
def Assembly.print (state : Assembly) (text : List Char) : Option Assembly :=
  state.write text (state.rpos + BitVec.ofInt 64 (snprintfResult text.length))

def Assembly.separate (state : Assembly) : Option Assembly :=
  if 0 < state.rpos.toNat ∧ state.rpos.toNat < reasonsSize - 2 then state.print "; ".toList else some state

def Assembly.item (state : Assembly) (text : List Char) : Option Assembly :=
  state.separate.bind fun separated => separated.print text

-- The item of the wind is the last and leaves rpos as it is.
def Assembly.windItem (state : Assembly) (text : List Char) : Option Assembly :=
  state.separate.bind fun separated => separated.write text separated.rpos

def alertReason (config : WeatherConfig) (feature : Json) : Option (List Char) :=
  ((featureEvent feature).filter fun event => (CString.strstr event.toList config.alertTypes.toList).isSome).map printed

-- The body of both loops: one item for what gives a reason.
def assembleOne (reason : Json → Option (List Char)) (state : Assembly) (json : Json) : Option Assembly :=
  match reason json with
  | some text => state.item text
  | none => some state

def assembleAlerts (config : WeatherConfig) (answer : Response) (state : Assembly) : Option Assembly :=
  if config.alertZones = "" then some state
  else
    match alertFeatures answer with
    | none => some state
    | some features =>
      (CBuffer.store state.buffer 0 nul).bind fun cleared =>
        features.foldlM (assembleOne (alertReason config)) { state with buffer := cleared, rpos := 0 }

def forecastReason (config : WeatherConfig) (period : Json) : Option (List Char) :=
  ((periodText "shortForecast" period).filter fun text =>
    decide (config.severeKeywords ≠ "") && keywordIn config text).map fun text => "Forecast: ".toList ++ printed text

def windText (maxWind : Int) : List Char := ("Wind " ++ toString maxWind ++ "mph").toList

def assembleForecast (config : WeatherConfig) (forecastUrl : String) (answer : Response) (state : Assembly) : Option Assembly :=
  if forecastUrl = "" then some state
  else
    match forecastPeriods answer with
    | none => some state
    | some periods =>
      let check := (periods.take 3).foldl (checkPeriod config) { severe := false, maxWind := 0, reasons := "" }
      ((periods.take 3).foldlM (assembleOne (forecastReason config)) state).bind fun assembled =>
        if check.maxWind ≥ config.windSpeedMph then assembled.windItem (windText check.maxWind) else some assembled

-- One turn of weather_thread: both checks on one buffer, the second from strlen(reasons)
-- on. None where a byte outside the buffer is written.
def assembleReasons (config : WeatherConfig) (forecastUrl : String) (alerts forecast : Response) : Option Assembly :=
  (assembleAlerts config alerts { buffer := List.replicate reasonsSize nul, rpos := 0, calls := [] }).bind fun first =>
    (CBuffer.text nul first.buffer).bind fun held =>
      assembleForecast config forecastUrl forecast { first with rpos := BitVec.ofNat 64 held.length }

def ReasonsInside (config : WeatherConfig) (forecastUrl : String) (alerts forecast : Response) : Prop :=
  ∃ final, assembleReasons config forecastUrl alerts forecast = some final ∧ ∀ call ∈ final.calls, call.Sound

def alertReasons (config : WeatherConfig) (answer : Response) : List (List Char) :=
  if config.alertZones = "" then [] else ((alertFeatures answer).getD []).filterMap (alertReason config)

def forecastReasons (config : WeatherConfig) (forecastUrl : String) (answer : Response) : List (List Char) :=
  if forecastUrl = "" then [] else (((forecastPeriods answer).getD []).take 3).filterMap (forecastReason config)

def separated (position : Nat) : Nat := if 0 < position ∧ position < reasonsSize - 2 then position + 2 else position

def Accepts (position length : Nat) : Prop := if length ≤ intMax then position + length ≤ reasonsSize else 0 < position

def advance (position length : Nat) : Nat := if length ≤ intMax then position + length else position - 1

-- Items of these lengths, one after the other from the position on, end in the buffer.
def Fits : Nat → List Nat → Prop
  | _, [] => True
  | position, length :: rest =>
    Accepts (separated position) length ∧ Fits (advance (separated position) length) rest

instance (position length : Nat) : Decidable (Accepts position length) := by
  unfold Accepts
  infer_instance

instance decidableFits : ∀ position lengths, Decidable (Fits position lengths)
  | _, [] => inferInstanceAs (Decidable True)
  | position, length :: rest =>
    have : Decidable (Fits (advance (separated position) length) rest) := decidableFits _ rest
    inferInstanceAs (Decidable (Accepts (separated position) length ∧ Fits (advance (separated position) length) rest))

-- The length of the string in the buffer after these items.
def heldAfter : Nat → Nat → List Nat → Nat
  | _, held, [] => held
  | position, _, length :: rest =>
    heldAfter (advance (separated position) length) (min (separated position + length) (reasonsSize - 1)) rest

structure Holding (state : Assembly) (position held : Nat) : Prop where
  rpos : state.rpos.toNat = position
  inside : position ≤ reasonsSize
  size : state.buffer.length = reasonsSize
  text : ∃ shown, CBuffer.text nul state.buffer = some shown ∧ shown.length = held
  reached : min position (reasonsSize - 1) ≤ held

def Within (calls : List Call) : Prop := ∀ call ∈ calls, call.Sound

theorem room_toNat (state : Assembly) (inside : state.rpos.toNat ≤ reasonsSize) :
    state.room.toNat + state.rpos.toNat = reasonsSize := by
  rw [Assembly.room, reasonsSize] at *
  have value : (BitVec.ofNat 64 512).toNat = 512 := rfl
  rw [BitVec.toNat_sub_of_le (by rw [BitVec.le_def, value]; exact inside), value]
  omega

-- A call from a position inside the buffer writes inside it, whatever the text is.
theorem write_inside (state : Assembly) (position held : Nat) (text : List Char) (after : BitVec 64)
    (holding : Holding state position held) (plain : nul ∉ text) :
    ∃ next, state.write text after = some next ∧ next.rpos = after ∧
      next.calls = state.calls ++ [⟨state.rpos, state.room, after⟩] ∧ next.buffer.length = reasonsSize ∧
      ∃ shown, CBuffer.text nul next.buffer = some shown ∧ shown.length = min (position + text.length) (reasonsSize - 1) := by
  obtain ⟨shown, found, length⟩ := holding.text
  have room := room_toNat state (by rw [holding.rpos]; exact holding.inside)
  have size := holding.size
  have reached := holding.reached
  have shorter := CBuffer.text_shorter nul _ shown found
  rw [holding.rpos] at room
  rw [Assembly.write, holding.rpos]
  by_cases full : position = reasonsSize
  · have none : state.room.toNat = 0 := by omega
    rw [CBuffer.snprintf, if_pos none, Option.map_some]
    refine ⟨_, rfl, rfl, rfl, size, shown, found, ?_⟩
    rw [reasonsSize] at *
    omega
  · have below : position ≤ shown.length := by
      have inside := holding.inside
      rw [reasonsSize] at *
      omega
    obtain ⟨next, stored, nextSize, now⟩ := CBuffer.snprintf_rest nul state.buffer shown text position found plain below
    rw [show state.buffer.length - position = state.room.toNat by omega] at stored
    rw [stored, Option.map_some]
    refine ⟨_, rfl, rfl, rfl, nextSize.trans size, _, now, ?_⟩
    rw [List.length_take, List.length_append, List.length_take_of_le below, size, Nat.min_comm]

-- The position after the call is inside exactly where the text is accepted.
theorem printed_position (rpos : BitVec 64) (length : Nat) (inside : rpos.toNat ≤ reasonsSize) :
    ((rpos + BitVec.ofInt 64 (snprintfResult length)).toNat ≤ reasonsSize ↔ Accepts rpos.toNat length) ∧
      (Accepts rpos.toNat length →
        (rpos + BitVec.ofInt 64 (snprintfResult length)).toNat = advance rpos.toNat length) := by
  rw [snprintfResult, Accepts, advance]
  rw [reasonsSize] at *
  by_cases short : length ≤ intMax
  · simp only [if_pos short]
    have value : (rpos + BitVec.ofInt 64 (length : Int)).toNat = rpos.toNat + length := by
      rw [intMax] at short
      rw [BitVec.ofInt_natCast, BitVec.toNat_add, BitVec.toNat_ofNat]
      omega
    rw [value]
    exact ⟨Iff.rfl, fun _ => rfl⟩
  · simp only [if_neg short]
    have minusOne : (BitVec.ofInt 64 (-1)).toNat = 2 ^ 64 - 1 := rfl
    rw [BitVec.toNat_add, minusOne]
    constructor
    · omega
    · intro positive
      omega

theorem print_step (state : Assembly) (position held : Nat) (text : List Char) (holding : Holding state position held)
    (plain : nul ∉ text) :
    ∃ next, state.print text = some next ∧ (Within next.calls ↔ Within state.calls ∧ Accepts position text.length) ∧
      (Accepts position text.length →
        Holding next (advance position text.length) (min (position + text.length) (reasonsSize - 1))) := by
  have inside : state.rpos.toNat ≤ reasonsSize := by
    rw [holding.rpos]
    exact holding.inside
  obtain ⟨sound, moved⟩ := printed_position state.rpos text.length inside
  obtain ⟨next, written, rpos, calls, size, shown, found, length⟩ := write_inside state position held text
    (state.rpos + BitVec.ofInt 64 (snprintfResult text.length)) holding plain
  rw [holding.rpos] at sound moved
  refine ⟨next, written, ?_, ?_⟩
  · rw [Within, calls, List.forall_mem_append, List.forall_mem_singleton, ← Within]
    refine and_congr_right fun _ => ?_
    constructor
    · exact fun call => sound.mp call.after
    · exact fun accepted => ⟨inside, room_toNat state inside, sound.mpr accepted⟩
  · intro accepted
    refine ⟨by rw [rpos, moved accepted], ?_, size, ⟨shown, found, length⟩, ?_⟩
    · rw [← moved accepted]
      exact sound.mpr accepted
    · rw [advance]
      split <;> omega

theorem separate_step (state : Assembly) (position held : Nat) (holding : Holding state position held) :
    ∃ next shown, state.separate = some next ∧ (Within next.calls ↔ Within state.calls) ∧
      Holding next (separated position) shown := by
  have inside := holding.inside
  rw [Assembly.separate, holding.rpos, separated]
  by_cases middle : 0 < position ∧ position < reasonsSize - 2
  · obtain ⟨next, printed, within, holds⟩ := print_step state position held "; ".toList holding (by decide)
    have accepted : Accepts position "; ".toList.length := by
      rw [Accepts, if_pos (by decide)]
      rw [reasonsSize] at *
      exact (show position + 2 ≤ 512 by omega)
    rw [if_pos middle, if_pos middle]
    exact ⟨next, _, printed, within.trans (and_iff_left accepted), holds accepted⟩
  · rw [if_neg middle, if_neg middle]
    exact ⟨state, held, rfl, Iff.rfl, holding⟩

theorem item_step (state : Assembly) (position held : Nat) (text : List Char) (holding : Holding state position held)
    (plain : nul ∉ text) :
    ∃ next, state.item text = some next ∧
      (Within next.calls ↔ Within state.calls ∧ Accepts (separated position) text.length) ∧
      (Accepts (separated position) text.length →
        Holding next (advance (separated position) text.length)
          (min (separated position + text.length) (reasonsSize - 1))) := by
  obtain ⟨middle, shown, separates, within, holds⟩ := separate_step state position held holding
  obtain ⟨next, printed, now, later⟩ := print_step middle _ shown text holds plain
  refine ⟨next, ?_, now.trans (and_congr_left' within), later⟩
  rw [Assembly.item, separates, Option.bind_some, printed]

theorem write_calls (state next : Assembly) (text : List Char) (after : BitVec 64) (wrote : state.write text after = some next) :
    state.calls <+: next.calls := by
  rw [Assembly.write, Option.map_eq_some_iff] at wrote
  obtain ⟨buffer, _, rfl⟩ := wrote
  exact List.prefix_append _ _

theorem separate_calls (state next : Assembly) (separates : state.separate = some next) : state.calls <+: next.calls := by
  rw [Assembly.separate] at separates
  split at separates
  · exact write_calls state next _ _ separates
  · rw [Option.some.inj separates]

theorem item_calls (state next : Assembly) (text : List Char) (done : state.item text = some next) :
    state.calls <+: next.calls := by
  obtain ⟨middle, separates, prints⟩ := Option.bind_eq_some_iff.mp done
  exact (separate_calls state middle separates).trans (write_calls middle next text _ prints)

theorem wind_item_calls (state next : Assembly) (text : List Char) (done : state.windItem text = some next) :
    state.calls <+: next.calls := by
  obtain ⟨middle, separates, prints⟩ := Option.bind_eq_some_iff.mp done
  exact (separate_calls state middle separates).trans (write_calls middle next text _ prints)

theorem items_calls (texts : List (List Char)) (state final : Assembly) (done : texts.foldlM Assembly.item state = some final) :
    state.calls <+: final.calls := by
  induction texts generalizing state with
  | nil =>
    rw [List.foldlM_nil] at done
    rw [Option.some.inj done]
  | cons text rest ih =>
    rw [List.foldlM_cons, Option.bind_eq_bind, Option.bind_eq_some_iff] at done
    obtain ⟨next, first, later⟩ := done
    exact (item_calls state next text first).trans (ih next later)

-- All the items of a list: the calls are in order exactly where the items fit.
theorem items_run (texts : List (List Char)) (state : Assembly) (position held : Nat) (holding : Holding state position held)
    (within : Within state.calls) (plain : ∀ text ∈ texts, nul ∉ text) :
    ((∃ final, texts.foldlM Assembly.item state = some final ∧ Within final.calls) ↔ Fits position (texts.map List.length)) ∧
      ∀ final, texts.foldlM Assembly.item state = some final → Within final.calls →
        ∃ last, Holding final last (heldAfter position held (texts.map List.length)) := by
  induction texts generalizing state position held with
  | nil =>
    refine ⟨iff_of_true ⟨state, rfl, within⟩ trivial, ?_⟩
    rintro final done _
    rw [List.foldlM_nil] at done
    rw [← Option.some.inj done]
    exact ⟨position, holding⟩
  | cons text rest ih =>
    obtain ⟨next, first, sound, holds⟩ := item_step state position held text holding (plain text List.mem_cons_self)
    have plainRest : ∀ text ∈ rest, nul ∉ text := fun text member => plain text (List.mem_cons_of_mem _ member)
    have unfolds : (text :: rest).foldlM Assembly.item state = rest.foldlM Assembly.item next := by
      rw [List.foldlM_cons, first]
      rfl
    -- A run whose calls are in order has this item accepted.
    have accepted : ∀ final, rest.foldlM Assembly.item next = some final → Within final.calls →
        Accepts (separated position) text.length := by
      intro final later ended
      have kept := items_calls rest next final later
      exact (sound.mp fun call member => ended call (kept.subset member)).2
    rw [unfolds]
    constructor
    · constructor
      · rintro ⟨final, later, ended⟩
        have fits := accepted final later ended
        exact ⟨fits, (ih next _ _ (holds fits) (sound.mpr ⟨within, fits⟩) plainRest).1.mp ⟨final, later, ended⟩⟩
      · rintro ⟨fits, more⟩
        exact (ih next _ _ (holds fits) (sound.mpr ⟨within, fits⟩) plainRest).1.mpr more
    · intro final later ended
      have fits := accepted final later ended
      exact (ih next _ _ (holds fits) (sound.mpr ⟨within, fits⟩) plainRest).2 final later ended

theorem printed_plain (text : String) : nul ∉ printed text := by
  intro member
  simpa using List.mem_takeWhile_imp member

theorem alert_reasons_plain (config : WeatherConfig) (answer : Response) : ∀ text ∈ alertReasons config answer, nul ∉ text := by
  intro text member
  rw [alertReasons] at member
  split at member
  · cases member
  · obtain ⟨feature, _, reason⟩ := List.mem_filterMap.mp member
    rw [alertReason, Option.map_eq_some_iff] at reason
    obtain ⟨event, _, rfl⟩ := reason
    exact printed_plain event

theorem forecast_reasons_plain (config : WeatherConfig) (forecastUrl : String) (answer : Response) :
    ∀ text ∈ forecastReasons config forecastUrl answer, nul ∉ text := by
  intro text member
  rw [forecastReasons] at member
  split at member
  · cases member
  · obtain ⟨period, _, reason⟩ := List.mem_filterMap.mp member
    rw [forecastReason, Option.map_eq_some_iff] at reason
    obtain ⟨forecast, _, rfl⟩ := reason
    rw [List.mem_append, not_or]
    exact ⟨by decide, printed_plain forecast⟩

theorem wind_text_plain (maxWind : Int) : nul ∉ windText maxWind := by
  have digits : ∀ value : Nat, nul ∉ value.repr.toList := by
    intro value member
    rw [Nat.toList_repr] at member
    exact absurd (Nat.isDigit_of_mem_toDigits (by decide) (by decide) member) (by decide)
  have number : nul ∉ (toString maxWind).toList := by
    rw [Int.toString_eq_repr, Int.repr_eq_if]
    split
    · exact digits _
    · rw [String.toList_append, List.mem_append, not_or]
      exact ⟨by decide, digits _⟩
  rw [windText, String.toList_append, String.toList_append, List.mem_append, List.mem_append, not_or, not_or]
  exact ⟨⟨by decide, number⟩, by decide⟩

theorem assemble_filter (reason : Json → Option (List Char)) (items : List Json) (state : Assembly) :
    items.foldlM (assembleOne reason) state = (items.filterMap reason).foldlM Assembly.item state := by
  induction items generalizing state with
  | nil => rfl
  | cons json rest ih =>
    rw [List.foldlM_cons, assembleOne]
    cases found : reason json with
    | none =>
      rw [List.filterMap_cons_none found]
      exact ih state
    | some text =>
      rw [List.filterMap_cons_some found, List.foldlM_cons]
      exact congrArg _ (funext ih)

theorem assemble_alerts_items (config : WeatherConfig) (answer : Response) (state : Assembly) (rest : List Char)
    (empty : state.buffer = nul :: rest) (start : state.rpos = 0) :
    assembleAlerts config answer state = (alertReasons config answer).foldlM Assembly.item state := by
  rw [assembleAlerts, alertReasons]
  by_cases unset : config.alertZones = ""
  · rw [if_pos unset, if_pos unset]
    rfl
  · rw [if_neg unset, if_neg unset]
    cases features : alertFeatures answer with
    | none => rfl
    | some features =>
      have same : { state with buffer := nul :: rest, rpos := 0 } = state := by rw [← empty, ← start]
      rw [empty]
      dsimp only
      rw [CBuffer.store_first, Option.bind_some, same, Option.getD_some, assemble_filter]

theorem assemble_forecast_items (config : WeatherConfig) (forecastUrl : String) (answer : Response) (state : Assembly) :
    assembleForecast config forecastUrl answer state =
      ((forecastReasons config forecastUrl answer).foldlM Assembly.item state).bind fun assembled =>
        match if forecastUrl = "" then none else forecastPeriods answer with
        | none => some assembled
        | some periods =>
          let check := (periods.take 3).foldl (checkPeriod config) { severe := false, maxWind := 0, reasons := "" }
          if check.maxWind ≥ config.windSpeedMph then assembled.windItem (windText check.maxWind) else some assembled := by
  rw [assembleForecast, forecastReasons]
  by_cases unset : forecastUrl = ""
  · rw [if_pos unset, if_pos unset, if_pos unset]
    rfl
  · rw [if_neg unset, if_neg unset, if_neg unset]
    cases periods : forecastPeriods answer with
    | none => rfl
    | some periods =>
      dsimp only
      rw [Option.getD_some, assemble_filter]

theorem wind_item_step (state : Assembly) (position held : Nat) (text : List Char) (holding : Holding state position held)
    (plain : nul ∉ text) : ∃ next, state.windItem text = some next ∧ (Within next.calls ↔ Within state.calls) := by
  obtain ⟨middle, shown, separates, within, holds⟩ := separate_step state position held holding
  obtain ⟨next, written, _, calls, _⟩ := write_inside middle _ shown text middle.rpos holds plain
  have inside : middle.rpos.toNat ≤ reasonsSize := by
    rw [holds.rpos]
    exact holds.inside
  refine ⟨next, ?_, ?_⟩
  · rw [Assembly.windItem, separates, Option.bind_some, written]
  · rw [Within, calls, List.forall_mem_append, List.forall_mem_singleton, ← Within, within]
    exact and_iff_left ⟨inside, room_toNat middle inside, inside⟩

theorem assemble_forecast_calls (config : WeatherConfig) (forecastUrl : String) (answer : Response) (state final : Assembly)
    (done : assembleForecast config forecastUrl answer state = some final) :
    ∃ assembled, (forecastReasons config forecastUrl answer).foldlM Assembly.item state = some assembled ∧
      assembled.calls <+: final.calls := by
  rw [assemble_forecast_items] at done
  obtain ⟨assembled, items, last⟩ := Option.bind_eq_some_iff.mp done
  refine ⟨assembled, items, ?_⟩
  generalize (if forecastUrl = "" then none else forecastPeriods answer) = periods at last
  cases periods with
  | none => exact (Option.some.inj last) ▸ List.prefix_refl _
  | some periods =>
    dsimp only at last
    split at last
    · exact wind_item_calls assembled final _ last
    · exact (Option.some.inj last) ▸ List.prefix_refl _

theorem forecast_run (config : WeatherConfig) (forecastUrl : String) (answer : Response) (state : Assembly)
    (position held : Nat) (holding : Holding state position held) (within : Within state.calls) :
    (∃ final, assembleForecast config forecastUrl answer state = some final ∧ Within final.calls) ↔
      Fits position ((forecastReasons config forecastUrl answer).map List.length) := by
  obtain ⟨runs, ends⟩ := items_run (forecastReasons config forecastUrl answer) state position held holding within
    (forecast_reasons_plain config forecastUrl answer)
  rw [← runs]
  constructor
  · rintro ⟨final, done, ended⟩
    obtain ⟨assembled, items, kept⟩ := assemble_forecast_calls config forecastUrl answer state final done
    exact ⟨assembled, items, fun call member => ended call (kept.subset member)⟩
  · rintro ⟨assembled, items, ended⟩
    obtain ⟨last, holds⟩ := ends assembled items ended
    rw [assemble_forecast_items, items, Option.bind_some]
    cases (if forecastUrl = "" then none else forecastPeriods answer) with
    | none => exact ⟨assembled, rfl, ended⟩
    | some periods =>
      dsimp only
      split
      · obtain ⟨final, winds, sound⟩ := wind_item_step assembled last _ _ holds (wind_text_plain _)
        exact ⟨final, winds, sound.mpr ended⟩
      · exact ⟨assembled, rfl, ended⟩

theorem start_holding : Holding { buffer := List.replicate reasonsSize nul, rpos := 0, calls := [] } 0 0 :=
  ⟨rfl, Nat.zero_le _, List.length_replicate, ⟨[], (CBuffer.text_eq_some_iff nul _ []).mpr
    ⟨List.not_mem_nil, List.replicate 511 nul, rfl⟩, rfl⟩, Nat.zero_le _⟩

-- check_forecast goes on where the string of check_alerts ends.
theorem resumed_holding (state : Assembly) (position held : Nat) (shown : List Char) (holding : Holding state position held)
    (found : CBuffer.text nul state.buffer = some shown) :
    Holding { state with rpos := BitVec.ofNat 64 shown.length } held held := by
  obtain ⟨other, same, length⟩ := holding.text
  obtain rfl := Option.some.inj (found.symm.trans same)
  have size := holding.size
  have shorter := CBuffer.text_shorter nul _ shown found
  rw [reasonsSize] at size
  refine ⟨?_, ?_, holding.size, ⟨shown, found, length⟩, Nat.min_le_left _ _⟩
  · rw [← length, BitVec.toNat_ofNat]
    omega
  · rw [reasonsSize]
    omega

theorem reasons_within (config : WeatherConfig) (forecastUrl : String) (alerts forecast : Response)
    (inside : ReasonsInside config forecastUrl alerts forecast) :
    Fits 0 ((alertReasons config alerts).map List.length) ∧
      Fits (heldAfter 0 0 ((alertReasons config alerts).map List.length))
        ((forecastReasons config forecastUrl forecast).map List.length) := by
  obtain ⟨runs, ends⟩ := items_run (alertReasons config alerts) _ 0 0 start_holding (fun call member => by cases member)
    (alert_reasons_plain config alerts)
  obtain ⟨final, done, ended⟩ := inside
  rw [assembleReasons, assemble_alerts_items config alerts _ (List.replicate 511 nul) rfl rfl] at done
  obtain ⟨first, alerted, done⟩ := Option.bind_eq_some_iff.mp done
  obtain ⟨shown, found, done⟩ := Option.bind_eq_some_iff.mp done
  obtain ⟨assembled, more, kept⟩ := assemble_forecast_calls config forecastUrl forecast _ final done
  have within : Within first.calls := fun call member =>
    ended call (kept.subset ((items_calls _ _ assembled more).subset member))
  obtain ⟨last, holding⟩ := ends first alerted within
  refine ⟨runs.mp ⟨first, alerted, within⟩, ?_⟩
  exact (forecast_run config forecastUrl forecast _ _ _ (resumed_holding first last _ shown holding found) within).mp
    ⟨final, done, ended⟩

theorem reasons_inside_iff (config : WeatherConfig) (forecastUrl : String) (alerts forecast : Response) :
    ReasonsInside config forecastUrl alerts forecast ↔
      Fits 0 ((alertReasons config alerts).map List.length) ∧
        Fits (heldAfter 0 0 ((alertReasons config alerts).map List.length))
          ((forecastReasons config forecastUrl forecast).map List.length) := by
  refine ⟨reasons_within config forecastUrl alerts forecast, ?_⟩
  rintro ⟨alertsFit, forecastFits⟩
  obtain ⟨runs, ends⟩ := items_run (alertReasons config alerts) _ 0 0 start_holding (fun call member => by cases member)
    (alert_reasons_plain config alerts)
  obtain ⟨first, alerted, within⟩ := runs.mpr alertsFit
  obtain ⟨last, holding⟩ := ends first alerted within
  obtain ⟨shown, found, _⟩ := holding.text
  obtain ⟨final, done, ended⟩ := (forecast_run config forecastUrl forecast _ _ _
    (resumed_holding first last _ shown holding found) within).mpr forecastFits
  refine ⟨final, ?_, ended⟩
  rw [assembleReasons, assemble_alerts_items config alerts _ (List.replicate 511 nul) rfl rfl, alerted, Option.bind_some,
    found, Option.bind_some, done]

def stormWarnings : WeatherConfig :=
  { latitude := .finite 0, longitude := .finite 0, alertZones := "TXZ119", alertTypes := "Severe Thunderstorm Warning"
    windSpeedMph := 40, severeKeywords := "" }

def repeatedAlert (count : Nat) : Response :=
  .answered (.object [("features", .array (List.replicate count
    (.object [("properties", .object [("event", .string "Severe Thunderstorm Warning")])])))])

-- Alerts of 27 characters: the eighteenth ends behind the buffer, and the next one is
-- written there.
theorem alerts_pass_the_end : ¬ReasonsInside stormWarnings "" (repeatedAlert 19) .failed := by
  intro inside
  have fits := (reasons_within stormWarnings "" (repeatedAlert 19) .failed inside).1
  have lengths : (alertReasons stormWarnings (repeatedAlert 19)).map List.length = List.replicate 19 27 := by decide +kernel
  rw [lengths] at fits
  exact absurd fits (by decide)

end AiriesUps.Weather
