import SilverwareTx.Lib.GuardedReading

/-!
# CSV rows of a byte stream

A byte stream arrives in chunks and may break off with an exception. `decodeChunks` is the
incremental UTF-8 decoder with the line reader behind it, `parseLines` the CSV machine (comma,
double quotes that are doubled, no escape character), and `dictRows` puts the header's names on the
rows. `csvReading` is all of them in a row, as lazy readers: `csvReading_break`, the exception of
the stream comes through exactly when nothing in front of it is malformed.
-/

namespace CsvText

open GuardedReading

/-- A byte. -/
abbrev Byte := BitVec 8

/-! ### UTF-8 -/

/-- The decoder inside a character: the continuation bytes owed, the bounds of the next one, and the
bits so far. -/
structure Utf8State where
  owed : ℕ := 0
  low : ℕ := 0x80
  high : ℕ := 0xBF
  value : ℕ := 0
  deriving DecidableEq, Repr

/-- The first byte of a character. -/
def utf8First (byte : ℕ) : Option (Utf8State × Option Char) :=
  if byte < 0x80 then some ({}, some (Char.ofNat byte))
  else if 0xC2 ≤ byte ∧ byte ≤ 0xDF then some (⟨1, 0x80, 0xBF, byte - 0xC0⟩, none)
  else if byte = 0xE0 then some (⟨2, 0xA0, 0xBF, 0⟩, none)
  -- no surrogates
  else if byte = 0xED then some (⟨2, 0x80, 0x9F, 0xD⟩, none)
  else if 0xE1 ≤ byte ∧ byte ≤ 0xEF then some (⟨2, 0x80, 0xBF, byte - 0xE0⟩, none)
  else if byte = 0xF0 then some (⟨3, 0x90, 0xBF, 0⟩, none)
  else if byte = 0xF4 then some (⟨3, 0x80, 0x8F, 4⟩, none)
  else if 0xF1 ≤ byte ∧ byte ≤ 0xF3 then some (⟨3, 0x80, 0xBF, byte - 0xF0⟩, none)
  else none

/-- One byte: the character it completes, if any; `none` where UTF-8 cannot hold it. -/
def utf8Step (state : Utf8State) (byte : ℕ) : Option (Utf8State × Option Char) :=
  if state.owed = 0 then utf8First byte
  else if state.low ≤ byte ∧ byte ≤ state.high then
    let value := state.value * 64 + (byte - 0x80)
    if state.owed = 1 then some ({}, some (Char.ofNat value))
    else some ({ owed := state.owed - 1, value := value }, none)
  else none

/-- A chunk; the bytes of a character that is not complete stay in the decoder. -/
def utf8Decode (state : Utf8State) : List Byte → Option (List Char × Utf8State)
  | [] => some ([], state)
  | byte :: bytes => do
    let (state, char) ← utf8Step state byte.toNat
    let (chars, state) ← utf8Decode state bytes
    return (char.toList ++ chars, state)

/-! ### Lines -/

/-- The complete lines, with their ends, and the rest. A carriage return at the very end may still
get its line feed. -/
def splitLines : List Char → List (List Char) × List Char
  | [] => ([], [])
  | ['\r'] => ([], ['\r'])
  | '\r' :: '\n' :: chars =>
    let split := splitLines chars
    (['\r', '\n'] :: split.1, split.2)
  | char :: chars =>
    let split := splitLines chars
    if char = '\r' ∨ char = '\n' then ([char] :: split.1, split.2)
    else
      match split.1 with
      | [] => ([], char :: split.2)
      | line :: lines => ((char :: line) :: lines, split.2)

/-- The lines that the chunks complete, and where decoder and line reader stand behind them; `none`
once a chunk cannot be decoded. -/
def decodeChunks (state : Utf8State) (rest : List Char) :
    List (List Byte) → List (List Char) × Option (Utf8State × List Char)
  | [] => ([], some (state, rest))
  | chunk :: chunks =>
    match utf8Decode state chunk with
    | none => ([], none)
    | some (chars, state) =>
      let split := splitLines (rest ++ chars)
      let decoded := decodeChunks state split.2 chunks
      (split.1 ++ decoded.1, decoded.2)

/-! ### Records -/

/-- Where in a record the parser is. -/
inductive CsvState
  | startRecord
  | startField
  | inField
  | inQuotedField
  | quoteInQuotedField
  | eatCrnl
  deriving DecidableEq, Repr

/-- The state of the parser, with the field and the fields so far. -/
structure CsvParser where
  state : CsvState := .startRecord
  field : List Char := []
  fields : List String := []
  deriving DecidableEq

/-- The longest field. -/
def fieldLimit : ℕ := 131072

/-- The parser with its field added to the fields. -/
def CsvParser.saveField (parser : CsvParser) (state : CsvState) : CsvParser where
  state := state
  fields := parser.fields ++ [String.ofList parser.field]

/-- The parser with one more character in its field, if there is room. -/
def CsvParser.addChar (parser : CsvParser) (char : Char) (state : CsvState) :
    Except String CsvParser :=
  if fieldLimit ≤ parser.field.length then .error "field larger than field limit (131072)"
  else .ok { parser with state := state, field := parser.field ++ [char] }

/-- A character where a field may begin. -/
def CsvParser.startField (parser : CsvParser) : Option Char → Except String CsvParser
  | none => .ok (parser.saveField .startRecord)
  | some char =>
    if char = '\n' ∨ char = '\r' then .ok (parser.saveField .eatCrnl)
    else if char = '"' then .ok { parser with state := .inQuotedField }
    else if char = ',' then .ok (parser.saveField .startField)
    else parser.addChar char .inField

/-- One character of a line; `none` is its end. -/
def CsvParser.process (parser : CsvParser) (char : Option Char) : Except String CsvParser :=
  match parser.state, char with
  | .startRecord, none => .ok parser
  | .startRecord, some char =>
    if char = '\n' ∨ char = '\r' then .ok { parser with state := .eatCrnl }
    else parser.startField (some char)
  | .startField, char => parser.startField char
  | .inField, none => .ok (parser.saveField .startRecord)
  | .inField, some char =>
    if char = '\n' ∨ char = '\r' then .ok (parser.saveField .eatCrnl)
    else if char = ',' then .ok (parser.saveField .startField)
    else parser.addChar char .inField
  | .inQuotedField, none => .ok parser
  | .inQuotedField, some char =>
    if char = '"' then .ok { parser with state := .quoteInQuotedField }
    else parser.addChar char .inQuotedField
  | .quoteInQuotedField, none => .ok (parser.saveField .startRecord)
  | .quoteInQuotedField, some char =>
    if char = '"' then parser.addChar char .inQuotedField
    else if char = ',' then .ok (parser.saveField .startField)
    else if char = '\n' ∨ char = '\r' then .ok (parser.saveField .eatCrnl)
    else parser.addChar char .inField
  | .eatCrnl, none => .ok { parser with state := .startRecord }
  | .eatCrnl, some char =>
    if char = '\n' ∨ char = '\r' then .ok parser
    else .error ("new-line character seen in unquoted field - " ++
      "do you need to open the file with newline=''?")

/-- The parser after a line and its end. -/
def CsvParser.processLine (parser : CsvParser) (line : List Char) : Except String CsvParser :=
  (line.map some ++ [none]).foldlM CsvParser.process parser

/-- The records that the lines complete, and the parser behind them or its error. -/
def parseLines (parser : CsvParser) :
    List (List Char) → List (List String) × Except String CsvParser
  | [] => ([], .ok parser)
  | line :: lines =>
    match parser.processLine line with
    | .error text => ([], .error text)
    | .ok parser =>
      if parser.state = .startRecord then
        let parsed := parseLines {} lines
        (parser.fields :: parsed.1, parsed.2)
      else parseLines parser lines

/-! ### Rows -/

/-- A row by the names of its columns; `none` where it is too short. -/
abbrev Row := List (String × Option String)

/-- The last column of a name counts. -/
def Row.get (row : Row) (key : String) : Option (Option String) :=
  (row.reverse.find? fun column => column.1 = key).map Prod.snd

/-- The record under the field names. -/
def rowOf (fieldnames record : List String) : Row :=
  fieldnames.zip (record.map some) ++
    (fieldnames.drop record.length).map fun name => (name, none)

/-- The first record is the header; empty records are passed over. -/
def dictRows : List (List String) → List Row
  | [] => []
  | fieldnames :: records => (records.filter (· ≠ [])).map (rowOf fieldnames)

/-! ### Readers -/

section Readers

variable {ε : Type*} (unicodeError : ε) (csvError : String → ε)

/-- The lines of a stream that ends with `failure`, or at its end. -/
def textReading (chunks : List (List Byte)) (failure : Option ε) : Reading (List Char) ε :=
  let decoded := decodeChunks {} [] chunks
  match decoded.2, failure with
  | none, _ => ⟨decoded.1, some unicodeError⟩
  | some _, some e => ⟨decoded.1, some e⟩
  | some (state, rest), none =>
    if state.owed ≠ 0 then ⟨decoded.1, some unicodeError⟩
    else ⟨decoded.1 ++ if rest = [] then [] else [rest], none⟩

/-- The records of the lines. -/
def recordReading (lines : Reading (List Char) ε) : Reading (List String) ε :=
  let parsed := parseLines {} lines.items
  match parsed.2, lines.failure with
  | .error text, _ => ⟨parsed.1, some (csvError text)⟩
  | .ok _, some e => ⟨parsed.1, some e⟩
  | .ok parser, none =>
    if parser.field ≠ [] ∨ parser.state = .inQuotedField then
      ⟨parsed.1 ++ [(parser.saveField .startRecord).fields], none⟩
    else ⟨parsed.1, none⟩

/-- The rows of a stream. -/
def csvReading (chunks : List (List Byte)) (failure : Option ε) : Reading Row ε :=
  let records := recordReading csvError (textReading unicodeError chunks failure)
  ⟨dictRows records.items, records.failure⟩

/-- The chunks can be decoded and the lines they complete parsed. -/
def TextSound (chunks : List (List Byte)) : Prop :=
  (decodeChunks {} [] chunks).2.isSome = true ∧
    (parseLines {} (decodeChunks {} [] chunks).1).2.isOk = true

instance (chunks : List (List Byte)) : Decidable (TextSound chunks) := by
  unfold TextSound
  infer_instance

variable {unicodeError csvError} {chunks : List (List Byte)}

theorem textReading_break {e : ε} (h : (decodeChunks {} [] chunks).2.isSome = true) :
    textReading unicodeError chunks (some e) = ⟨(decodeChunks {} [] chunks).1, some e⟩ := by
  obtain ⟨⟨state, rest⟩, hd⟩ := Option.isSome_iff_exists.1 h
  simp only [textReading, hd]

theorem textReading_undecodable {failure : Option ε}
    (h : (decodeChunks {} [] chunks).2.isSome = false) :
    (textReading unicodeError chunks failure).failure = some unicodeError := by
  have hd : (decodeChunks {} [] chunks).2 = none := by simpa using h
  simp only [textReading, hd]

/-- What can be decoded comes first. -/
theorem textReading_items (failure : Option ε) :
    ∃ tail, (textReading unicodeError chunks failure).items = (decodeChunks {} [] chunks).1 ++ tail := by
  rcases hd : (decodeChunks {} [] chunks).2 with _ | ⟨state, rest⟩
  · exact ⟨[], by simp only [textReading, hd, List.append_nil]⟩
  · rcases failure with _ | e
    · by_cases howed : state.owed = 0
      · exact ⟨if rest = [] then [] else [rest], by simp only [textReading, hd, howed, ne_eq,
          not_true_eq_false, if_false]⟩
      · exact ⟨[], by simp only [textReading, hd, howed, ne_eq, not_false_eq_true, if_true,
          List.append_nil]⟩
    · exact ⟨[], by simp only [textReading, hd, List.append_nil]⟩

/-- More lines do not mend an error. -/
theorem parseLines_append_of_error {parser : CsvParser} {lines : List (List Char)} {text : String}
    (h : (parseLines parser lines).2 = .error text) (tail : List (List Char)) :
    (parseLines parser (lines ++ tail)).2 = .error text := by
  induction lines generalizing parser with
  | nil => cases h
  | cons line lines ih =>
    rcases hline : parser.processLine line with error | parser
    · simp only [parseLines, hline] at h
      simp only [List.cons_append, parseLines, hline, h]
    · simp only [parseLines, hline] at h
      simp only [List.cons_append, parseLines, hline]
      split_ifs at h ⊢
      · exact ih h
      · exact ih h

/-- A reader of records fails as its lines do, or in the CSV machine. -/
theorem recordReading_failure (csvError : String → ε) (lines : Reading (List Char) ε) :
    (recordReading csvError lines).failure = lines.failure ∨
      ∃ text, (recordReading csvError lines).failure = some (csvError text) := by
  rcases hp : (parseLines {} lines.items).2 with text | parser
  · exact .inr ⟨text, by simp only [recordReading, hp]⟩
  · left
    rcases hf : lines.failure with _ | e
    · simp only [recordReading, hp, hf]
      split_ifs <;> rfl
    · simp only [recordReading, hp, hf]

/-- A reader of rows fails as its stream does, in the decoder or in the CSV machine. -/
theorem csvReading_failure (failure : Option ε) :
    (csvReading unicodeError csvError chunks failure).failure = failure ∨
      (csvReading unicodeError csvError chunks failure).failure = some unicodeError ∨
      ∃ text, (csvReading unicodeError csvError chunks failure).failure = some (csvError text) := by
  have htext : (textReading unicodeError chunks failure).failure = failure ∨
      (textReading unicodeError chunks failure).failure = some unicodeError := by
    rcases hd : (decodeChunks {} [] chunks).2 with _ | ⟨state, rest⟩
    · right
      simp only [textReading, hd]
    · rcases failure with _ | e
      · by_cases howed : state.owed = 0
        · left
          simp only [textReading, hd, howed, ne_eq, not_true_eq_false, if_false]
        · right
          simp only [textReading, hd, howed, ne_eq, not_false_eq_true, if_true]
      · left
        simp only [textReading, hd]
  rcases recordReading_failure csvError (textReading unicodeError chunks failure) with hrec | hrec
  · rcases htext with htext | htext
    · exact .inl (hrec.trans htext)
    · exact .inr (.inl (hrec.trans htext))
  · exact .inr (.inr hrec)

theorem recordReading_of_error {lines : Reading (List Char) ε} {text : String}
    (h : (parseLines {} lines.items).2 = .error text) :
    (recordReading csvError lines).failure = some (csvError text) := by
  simp only [recordReading, h]

/-- Behind sound text the stream's own exception comes through. -/
theorem csvReading_of_sound {e : ε} (h : TextSound chunks) :
    (csvReading unicodeError csvError chunks (some e)).failure = some e := by
  obtain ⟨hdecoded, hparsed⟩ := h
  rcases hp : (parseLines {} (decodeChunks {} [] chunks).1).2 with text | parser
  · rw [hp] at hparsed
    cases hparsed
  · simp only [csvReading, textReading_break hdecoded, recordReading, hp]

/-- Text that is not sound fails by itself. -/
theorem csvReading_of_not_sound {failure : Option ε} (h : ¬TextSound chunks) :
    (csvReading unicodeError csvError chunks failure).failure = some unicodeError ∨
      ∃ text, (csvReading unicodeError csvError chunks failure).failure = some (csvError text) := by
  rw [csvReading]
  by_cases hdecoded : (decodeChunks {} [] chunks).2.isSome = true
  · rcases hp : (parseLines {} (decodeChunks {} [] chunks).1).2 with text | parser
    · obtain ⟨tail, htail⟩ : ∃ tail, (textReading unicodeError chunks failure).items =
          (decodeChunks {} [] chunks).1 ++ tail := textReading_items failure
      refine .inr ⟨text, recordReading_of_error ?_⟩
      rw [htail]
      exact parseLines_append_of_error hp tail
    · exact absurd ⟨hdecoded, by rw [hp]; rfl⟩ h
  · have hfailure : (textReading unicodeError chunks failure).failure = some unicodeError :=
      textReading_undecodable (by simpa using hdecoded)
    rcases recordReading_failure csvError (textReading unicodeError chunks failure) with hrec | hrec
    · exact .inl (hrec.trans hfailure)
    · exact .inr hrec

end Readers

end CsvText
