import Mathlib.Data.List.Basic
import Mathlib.Data.List.Induction

set_option autoImplicit false

-- The reader of a text/event-stream: fields are collected line by line and an
-- empty line dispatches them. A field other than event and data changes neither.
namespace EventStream

structure Event where
  type : List Char
  data : List Char
deriving DecidableEq, Repr

-- afterCr: the last character was a CR, and an LF after it belongs to it.
structure Reader where
  line : List Char
  afterCr : Bool
  type : List Char
  data : List Char
deriving DecidableEq, Repr

def Reader.fresh : Reader := { line := [], afterCr := false, type := [], data := [] }

def fieldName (line : List Char) : List Char := line.takeWhile fun char => char ≠ ':'

def withoutBlank : List Char → List Char
  | ' ' :: rest => rest
  | value => value

def fieldValue (line : List Char) : List Char := withoutBlank ((line.dropWhile fun char => char ≠ ':').drop 1)

def eventField : List Char := ['e', 'v', 'e', 'n', 't']

def dataField : List Char := ['d', 'a', 't', 'a']

def Reader.setField (reader : Reader) (name value : List Char) : Reader :=
  if name = eventField then { reader with line := [], type := value }
  else if name = dataField then { reader with line := [], data := reader.data ++ value ++ ['\n'] }
  else { reader with line := [] }

def Reader.dispatch (reader : Reader) : Reader × List Event :=
  if reader.data = [] then ({ reader with type := [], data := [] }, [])
  else
    ({ reader with type := [], data := [] },
      [{ type := if reader.type = [] then "message".toList else reader.type, data := reader.data.dropLast }])

def Reader.endLine (reader : Reader) : Reader × List Event :=
  match reader.line with
  | [] => reader.dispatch
  | ':' :: _ => ({ reader with line := [] }, [])
  | line => (reader.setField (fieldName line) (fieldValue line), [])

def Reader.feedChar (reader : Reader) (char : Char) : Reader × List Event :=
  if char = '\n' then
    if reader.afterCr then ({ reader with afterCr := false }, []) else reader.endLine
  else if char = '\r' then
    let ended := reader.endLine
    ({ ended.1 with afterCr := true }, ended.2)
  else ({ reader with line := reader.line ++ [char], afterCr := false }, [])

def Reader.feed (reader : Reader) : List Char → Reader × List Event
  | [] => (reader, [])
  | char :: rest =>
    let fed := reader.feedChar char
    let later := fed.1.feed rest
    (later.1, fed.2 ++ later.2)

def decode (text : List Char) : List Event := (Reader.fresh.feed text).2

-- The text as it arrives, in pieces.
def decodePieces (pieces : List (List Char)) : List Event :=
  (pieces.foldl (fun (state : Reader × List Event) piece => ((state.1.feed piece).1, state.2 ++ (state.1.feed piece).2))
    (.fresh, [])).2

def fieldLine (name value : List Char) : List Char := name ++ ':' :: ' ' :: value

def fieldLines (event : Event) : List Char :=
  fieldLine eventField event.type ++ ['\n'] ++ (fieldLine dataField event.data ++ ['\n'])

def encode (event : Event) : List Char := fieldLines event ++ ['\n']

def Plain (text : List Char) : Prop := '\n' ∉ text ∧ '\r' ∉ text

instance (text : List Char) : Decidable (Plain text) := inferInstanceAs (Decidable (_ ∧ _))

-- What an encoded event has to meet to be read back: its type is not empty, which
-- would read as "message", and neither of its parts has a line end.
structure Event.Encodable (event : Event) : Prop where
  typed : event.type ≠ []
  type : Plain event.type
  data : Plain event.data

instance (event : Event) : Decidable event.Encodable :=
  decidable_of_iff (event.type ≠ [] ∧ Plain event.type ∧ Plain event.data)
    ⟨fun ⟨typed, type, data⟩ => ⟨typed, type, data⟩, fun ⟨typed, type, data⟩ => ⟨typed, type, data⟩⟩

@[simp] theorem feed_nil (reader : Reader) : reader.feed [] = (reader, []) := rfl

theorem feed_cons (reader : Reader) (char : Char) (rest : List Char) :
    reader.feed (char :: rest) =
      (((reader.feedChar char).1.feed rest).1, (reader.feedChar char).2 ++ ((reader.feedChar char).1.feed rest).2) := rfl

theorem feed_append (reader : Reader) (first second : List Char) :
    reader.feed (first ++ second) =
      (((reader.feed first).1.feed second).1, (reader.feed first).2 ++ ((reader.feed first).1.feed second).2) := by
  induction first generalizing reader with
  | nil => rfl
  | cons char rest ih => rw [List.cons_append, feed_cons, ih, feed_cons, List.append_assoc]

theorem feed_events_append (reader : Reader) (first second : List Char) :
    (reader.feed (first ++ second)).2 = (reader.feed first).2 ++ ((reader.feed first).1.feed second).2 := by
  rw [feed_append]

-- The pieces a stream arrives in do not matter.
theorem decode_pieces (pieces : List (List Char)) : decodePieces pieces = decode pieces.flatten := by
  have fed : pieces.foldl (fun (state : Reader × List Event) piece => ((state.1.feed piece).1, state.2 ++ (state.1.feed piece).2))
      (.fresh, []) = Reader.fresh.feed pieces.flatten := by
    induction pieces using List.reverseRecOn with
    | nil => rfl
    | append_singleton before piece ih =>
      rw [List.foldl_append, ih, List.flatten_append, List.flatten_singleton, feed_append]
      rfl
  rw [decodePieces, fed, decode]

theorem plain_cons (char : Char) (rest : List Char) :
    Plain (char :: rest) ↔ char ≠ '\n' ∧ char ≠ '\r' ∧ Plain rest := by
  simp only [Plain, List.mem_cons, not_or]
  constructor
  · rintro ⟨⟨newline, noNewline⟩, return', noReturn⟩
    exact ⟨Ne.symm newline, Ne.symm return', noNewline, noReturn⟩
  · rintro ⟨newline, return', noNewline, noReturn⟩
    exact ⟨⟨Ne.symm newline, noNewline⟩, Ne.symm return', noReturn⟩

theorem plain_append (first second : List Char) : Plain (first ++ second) ↔ Plain first ∧ Plain second := by
  simp only [Plain, List.mem_append, not_or]
  constructor
  · rintro ⟨⟨first, second⟩, first', second'⟩
    exact ⟨⟨first, first'⟩, second, second'⟩
  · rintro ⟨⟨first, first'⟩, second, second'⟩
    exact ⟨⟨first, second⟩, first', second'⟩

theorem feed_plain (reader : Reader) (text : List Char) (plain : Plain text) (settled : reader.afterCr = false) :
    reader.feed text = ({ reader with line := reader.line ++ text }, []) := by
  induction text generalizing reader with
  | nil => simp only [feed_nil, List.append_nil]
  | cons char rest ih =>
    obtain ⟨noNewline, noReturn, restPlain⟩ := (plain_cons char rest).mp plain
    have step : reader.feedChar char = ({ reader with line := reader.line ++ [char] }, []) := by
      rw [Reader.feedChar, if_neg noNewline, if_neg noReturn, ← settled]
    have later := ih { reader with line := reader.line ++ [char] } restPlain settled
    rw [feed_cons, step]
    dsimp only
    rw [later, List.append_assoc]
    rfl

theorem feed_line (reader : Reader) (text : List Char) (plain : Plain text) (settled : reader.afterCr = false) :
    reader.feed (text ++ ['\n']) = ({ reader with line := reader.line ++ text } : Reader).endLine := by
  rw [feed_append, feed_plain reader text plain settled]
  simp only [feed_cons, feed_nil, Reader.feedChar, if_pos, settled, Bool.false_eq_true, if_false, List.append_nil,
    List.nil_append]

theorem field_name_line (name value : List Char) (noColon : ':' ∉ name) : fieldName (fieldLine name value) = name := by
  rw [fieldName, fieldLine, List.takeWhile_append_of_pos]
  · rw [List.takeWhile_cons, if_neg (by simp), List.append_nil]
  · intro char member
    exact decide_eq_true fun same => noColon (same ▸ member)

theorem field_value_line (name value : List Char) (noColon : ':' ∉ name) : fieldValue (fieldLine name value) = value := by
  rw [fieldValue, fieldLine, List.dropWhile_append_of_pos]
  · rw [List.dropWhile_cons, if_neg (by simp)]
    rfl
  · intro char member
    exact decide_eq_true fun same => noColon (same ▸ member)

theorem feed_field (reader : Reader) (name value : List Char) (empty : reader.line = [])
    (settled : reader.afterCr = false) (named : name ≠ []) (noColon : ':' ∉ name) (plain : Plain (fieldLine name value)) :
    reader.feed (fieldLine name value ++ ['\n']) = (reader.setField name value, []) := by
  have readName := field_name_line name value noColon
  have readValue := field_value_line name value noColon
  rw [feed_line reader _ plain settled, empty, List.nil_append]
  generalize fieldLine name value = line at readName readValue
  match line with
  | [] => exact absurd readName.symm named
  | ':' :: rest => exact absurd readName.symm named
  | first :: rest =>
    rw [Reader.endLine]
    split
    next isEmpty => cases isEmpty
    next isComment =>
      rw [(List.cons.inj isComment).1] at readName
      exact absurd readName.symm named
    next =>
      rw [readName, readValue]
      rfl

theorem field_plain (name value : List Char) (namePlain : Plain name) (valuePlain : Plain value) :
    Plain (fieldLine name value) := by
  rw [fieldLine, plain_append, plain_cons, plain_cons]
  exact ⟨namePlain, by decide, by decide, by decide, by decide, valuePlain⟩

theorem feed_blank (reader : Reader) (empty : reader.line = []) (settled : reader.afterCr = false) :
    reader.feed ['\n'] = reader.dispatch := by
  rw [feed_cons, Reader.feedChar, if_pos rfl, settled, if_neg Bool.false_ne_true, Reader.endLine, empty, feed_nil,
    List.append_nil]

def Reader.holding (event : Event) : Reader := { Reader.fresh with type := event.type, data := event.data ++ ['\n'] }

theorem feed_field_lines (event : Event) (encodable : event.Encodable) :
    Reader.fresh.feed (fieldLines event) = (.holding event, []) := by
  have typed := feed_field .fresh eventField event.type rfl rfl (by decide) (by decide)
    (field_plain _ _ (by decide) encodable.type)
  have data := feed_field { Reader.fresh with type := event.type } dataField event.data rfl rfl (by decide) (by decide)
    (field_plain _ _ (by decide) encodable.data)
  have toData : Reader.fresh.setField eventField event.type = { Reader.fresh with type := event.type } := rfl
  rw [fieldLines, feed_append, typed, toData]
  dsimp only
  rw [data]
  rfl

theorem feed_event (event : Event) (encodable : event.Encodable) :
    Reader.fresh.feed (encode event) = (.fresh, [event]) := by
  have dispatched : (Reader.holding event).dispatch = (.fresh, [event]) := by
    have collected : event.data ++ ['\n'] ≠ [] := List.append_ne_nil_of_right_ne_nil _ (by simp)
    rw [Reader.dispatch, Reader.holding]
    dsimp only
    rw [if_neg collected, if_neg encodable.typed, List.dropLast_concat]
    rfl
  rw [encode, feed_append, feed_field_lines event encodable]
  dsimp only
  rw [feed_blank _ rfl rfl, dispatched, List.nil_append]

-- Nothing is dispatched before the last character of an event has come.
theorem feed_unfinished (event : Event) (encodable : event.Encodable) (count : Nat)
    (unfinished : count < (encode event).length) : (Reader.fresh.feed ((encode event).take count)).2 = [] := by
  have shorter : count ≤ (fieldLines event).length := by
    rw [encode, List.length_append] at unfinished
    exact Nat.lt_succ_iff.mp unfinished
  have whole := congrArg Prod.snd (feed_field_lines event encodable)
  rw [← List.take_append_drop count (fieldLines event), feed_events_append] at whole
  rw [encode, List.take_append_of_le_length shorter]
  exact (List.append_eq_nil_iff.mp whole).1

-- A comment and the blank line after it.
theorem feed_comment (text : List Char) (plain : Plain text) :
    Reader.fresh.feed (':' :: text ++ ['\n', '\n']) = (.fresh, []) := by
  have line := feed_line .fresh (':' :: text) ((plain_cons _ _).mpr ⟨by decide, by decide, plain⟩) rfl
  have split : ':' :: text ++ ['\n', '\n'] = (':' :: text ++ ['\n']) ++ ['\n'] := by simp
  rw [split, feed_append, line]
  rfl

end EventStream
