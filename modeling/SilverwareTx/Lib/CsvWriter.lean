import SilverwareTx.Lib.CsvText

/-!
# Writing CSV

`csvRecord` writes a record as `csv.writer` does with its default dialect: fields that hold a comma,
a quote or an end of line are quoted, and so is the only field of a record when it is empty. The
reader of `CsvText` gives the records back (`csvReading_written`), in whatever chunks their UTF-8
bytes arrive.
-/

namespace CsvText

open GuardedReading

/-! ### Model -/

/-- The characters that a field is quoted for. -/
def isSpecial (char : Char) : Bool := char = ',' || char = '"' || char = '\r' || char = '\n'

/-- A character inside of quotes. -/
def escapeQuote (char : Char) : List Char := if char = '"' then ['"', '"'] else [char]

/-- A field in quotes. -/
def quoted (field : List Char) : List Char := '"' :: (field.flatMap escapeQuote ++ ['"'])

/-- A field as it is written: in quotes where it has to be. -/
def csvField (field : List Char) : List Char :=
  if field.any isSpecial then quoted field else field

/-- The fields of a record, with commas between them. -/
def csvFields : List (List Char) → List Char
  | [] => []
  | [field] => csvField field
  | field :: fields => csvField field ++ ',' :: csvFields fields

/-- A line of the file; the fields may have ends of line in them. -/
def csvRecord (record : List String) : List Char :=
  (if record = [""] then ['"', '"'] else csvFields (record.map String.toList)) ++ ['\r', '\n']

/-- The text of some records. -/
def csvText (records : List (List String)) : List Char := records.flatMap csvRecord

/-- The bytes of a character. -/
def utf8Bytes (char : Char) : List Byte := (String.utf8EncodeChar char).map UInt8.toBitVec

/-- The bytes of a text. -/
def utf8Encode (text : List Char) : List Byte := text.flatMap utf8Bytes

/-! ### UTF-8 -/

@[simp] theorem utf8Encode_nil : utf8Encode [] = [] := rfl

@[simp] theorem utf8Encode_append (a b : List Char) :
    utf8Encode (a ++ b) = utf8Encode a ++ utf8Encode b := List.flatMap_append

/-- A continuation byte with six more bits. -/
def utf8Tail (value : ℕ) : Byte := BitVec.ofNat 8 (value % 0x40 + 0x80)

theorem utf8Bytes_eq (char : Char) :
    utf8Bytes char =
      if char.toNat ≤ 0x7F then [BitVec.ofNat 8 char.toNat]
      else if char.toNat ≤ 0x7FF then
        [BitVec.ofNat 8 (char.toNat / 64 % 0x20 + 0xC0), utf8Tail char.toNat]
      else if char.toNat ≤ 0xFFFF then
        [BitVec.ofNat 8 (char.toNat / 4096 % 0x10 + 0xE0), utf8Tail (char.toNat / 64),
          utf8Tail char.toNat]
      else
        [BitVec.ofNat 8 (char.toNat / 262144 % 8 + 0xF0), utf8Tail (char.toNat / 4096),
          utf8Tail (char.toNat / 64), utf8Tail char.toNat] := by
  have hval : char.val.toNat = char.toNat := rfl
  simp only [utf8Bytes, String.utf8EncodeChar, hval]
  split_ifs <;> rfl

theorem utf8Decode_cons {state state' : Utf8State} {byte : Byte} {char : Option Char}
    (h : utf8Step state byte.toNat = some (state', char)) (bytes : List Byte) :
    utf8Decode state (byte :: bytes) =
      (utf8Decode state' bytes).map fun decoded => (char.toList ++ decoded.1, decoded.2) := by
  rw [utf8Decode, h]
  simp only [Option.bind_eq_bind, Option.bind_some]
  cases utf8Decode state' bytes <;> rfl

theorem toNat_utf8Tail (value : ℕ) : (utf8Tail value).toNat = value % 0x40 + 0x80 := by
  rw [utf8Tail, BitVec.toNat_ofNat]
  exact Nat.mod_eq_of_lt (by omega)

/-- A continuation byte that is not the last. -/
theorem utf8Step_tail {owed low high value bits : ℕ} (howed : 1 < owed)
    (hlow : low ≤ bits % 0x40 + 0x80) (hhigh : bits % 0x40 + 0x80 ≤ high) :
    utf8Step ⟨owed, low, high, value⟩ (utf8Tail bits).toNat =
      some ({ owed := owed - 1, value := value * 64 + bits % 0x40 }, none) := by
  rw [toNat_utf8Tail, utf8Step, if_neg (by simp only; omega), if_pos ⟨hlow, hhigh⟩,
    if_neg (by simp only; omega), Nat.add_sub_cancel]

/-- The last byte of a character. -/
theorem utf8Step_last {value : ℕ} {char : Char} (hvalue : value = char.toNat / 64) :
    utf8Step { owed := 1, value := value } (utf8Tail char.toNat).toNat = some ({}, some char) := by
  have hjoined : value * 64 + char.toNat % 0x40 = char.toNat := by omega
  rw [toNat_utf8Tail, utf8Step, if_neg (by simp), if_pos ⟨by simp only; omega, by simp only; omega⟩,
    if_pos rfl]
  simp only [Nat.add_sub_cancel, hjoined, Char.ofNat_toNat]

theorem toNat_first {value : ℕ} (h : value < 256) : (BitVec.ofNat 8 value).toNat = value :=
  Nat.mod_eq_of_lt h

/-- **A character** is decoded from its bytes. -/
theorem utf8Decode_utf8Bytes (char : Char) (bytes : List Byte) :
    utf8Decode {} (utf8Bytes char ++ bytes) =
      (utf8Decode {} bytes).map fun decoded => (char :: decoded.1, decoded.2) := by
  have hvalid : char.toNat < 0xD800 ∨ 0xDFFF < char.toNat ∧ char.toNat < 0x110000 := char.valid
  have hmap : ∀ decoded : Option (List Char × Utf8State),
      (decoded.map fun d => ((some char).toList ++ d.1, d.2)) =
        decoded.map fun d => (char :: d.1, d.2) := fun _ => rfl
  have hskip : ∀ decoded : Option (List Char × Utf8State),
      (decoded.map fun d => ((none : Option Char).toList ++ d.1, d.2)) = decoded := by
    rintro (_ | _) <;> rfl
  rw [utf8Bytes_eq]
  -- one to four bytes
  split_ifs with h1 h2 h3
  · have hstep : utf8Step {} (BitVec.ofNat 8 char.toNat).toNat = some ({}, some char) := by
      rw [toNat_first (by omega), utf8Step, if_pos rfl, utf8First, if_pos (by omega),
        Char.ofNat_toNat]
    rw [List.singleton_append, utf8Decode_cons hstep, hmap]
  · have hstep : utf8Step {} (BitVec.ofNat 8 (char.toNat / 64 % 0x20 + 0xC0)).toNat =
        some ({ owed := 1, value := char.toNat / 64 }, none) := by
      rw [toNat_first (by omega), utf8Step, if_pos rfl, utf8First, if_neg (by omega),
        if_pos (by omega), Nat.add_sub_cancel, Nat.mod_eq_of_lt (by omega)]
    simp only [List.cons_append, List.nil_append]
    rw [utf8Decode_cons hstep, hskip, utf8Decode_cons (utf8Step_last rfl), hmap]
  · obtain ⟨low, high, hstep, hlow, hhigh⟩ : ∃ low high,
        utf8Step {} (BitVec.ofNat 8 (char.toNat / 4096 % 0x10 + 0xE0)).toNat =
          some (⟨2, low, high, char.toNat / 4096⟩, none) ∧
        low ≤ char.toNat / 64 % 0x40 + 0x80 ∧ char.toNat / 64 % 0x40 + 0x80 ≤ high := by
      rw [toNat_first (by omega), utf8Step, if_pos rfl, utf8First, if_neg (by omega),
        if_neg (by omega), Nat.mod_eq_of_lt (by omega)]
      by_cases hE0 : char.toNat / 4096 = 0
      · exact ⟨0xA0, 0xBF, by rw [if_pos (by omega), hE0], by omega, by omega⟩
      by_cases hED : char.toNat / 4096 = 0xD
      · exact ⟨0x80, 0x9F, by rw [if_neg (by omega), if_pos (by omega), hED], by omega, by omega⟩
      · refine ⟨0x80, 0xBF, ?_, by omega, by omega⟩
        rw [if_neg (by omega), if_neg (by omega), if_pos (by omega), Nat.add_sub_cancel]
    have hlast : char.toNat / 4096 * 64 + char.toNat / 64 % 0x40 = char.toNat / 64 := by omega
    simp only [List.cons_append, List.nil_append]
    rw [utf8Decode_cons hstep, hskip, utf8Decode_cons (utf8Step_tail (by omega) hlow hhigh), hskip,
      utf8Decode_cons (utf8Step_last hlast), hmap]
  · obtain ⟨low, high, hstep, hlow, hhigh⟩ : ∃ low high,
        utf8Step {} (BitVec.ofNat 8 (char.toNat / 262144 % 8 + 0xF0)).toNat =
          some (⟨3, low, high, char.toNat / 262144⟩, none) ∧
        low ≤ char.toNat / 4096 % 0x40 + 0x80 ∧ char.toNat / 4096 % 0x40 + 0x80 ≤ high := by
      rw [toNat_first (by omega), utf8Step, if_pos rfl, utf8First, if_neg (by omega),
        if_neg (by omega), if_neg (by omega), if_neg (by omega), if_neg (by omega),
        Nat.mod_eq_of_lt (by omega)]
      by_cases hF0 : char.toNat / 262144 = 0
      · exact ⟨0x90, 0xBF, by rw [if_pos (by omega), hF0], by omega, by omega⟩
      by_cases hF4 : char.toNat / 262144 = 4
      · exact ⟨0x80, 0x8F, by rw [if_neg (by omega), if_pos (by omega), hF4], by omega, by omega⟩
      · refine ⟨0x80, 0xBF, ?_, by omega, by omega⟩
        rw [if_neg (by omega), if_neg (by omega), if_pos (by omega), Nat.add_sub_cancel]
    have hnext : char.toNat / 262144 * 64 + char.toNat / 4096 % 0x40 = char.toNat / 4096 := by omega
    have hlast : char.toNat / 4096 * 64 + char.toNat / 64 % 0x40 = char.toNat / 64 := by omega
    simp only [List.cons_append, List.nil_append]
    rw [utf8Decode_cons hstep, hskip, utf8Decode_cons (utf8Step_tail (by omega) hlow hhigh), hskip,
      hnext, utf8Decode_cons (utf8Step_tail (by omega) (by omega) (by omega)), hskip,
      utf8Decode_cons (utf8Step_last hlast), hmap]

theorem utf8Decode_utf8Encode (text : List Char) :
    utf8Decode {} (utf8Encode text) = some (text, {}) := by
  induction text with
  | nil => rfl
  | cons char text ih =>
    rw [utf8Encode, List.flatMap_cons, utf8Decode_utf8Bytes, ← utf8Encode, ih]
    rfl

theorem utf8Decode_append (a b : List Byte) (state : Utf8State) :
    utf8Decode state (a ++ b) =
      (utf8Decode state a).bind fun first =>
        (utf8Decode first.2 b).map fun second => (first.1 ++ second.1, second.2) := by
  induction a generalizing state with
  | nil =>
    rw [List.nil_append, utf8Decode, Option.bind_some]
    cases utf8Decode state b <;> rfl
  | cons byte a ih =>
    cases hstep : utf8Step state byte.toNat with
    | none => simp [utf8Decode, hstep]
    | some step =>
      rw [List.cons_append, utf8Decode_cons hstep, utf8Decode_cons hstep, ih]
      cases utf8Decode step.1 a with
      | none => rfl
      | some first =>
        simp only [Option.bind_some, Option.map_some, Option.map_map]
        congr 1
        funext second
        simp

/-! ### Lines -/

/-- An end of line that is not the start of a longer one. -/
theorem splitLines_break {char : Char} (hbreak : char = '\r' ∨ char = '\n') {text : List Char}
    (h : char = '\r' → text ≠ [] ∧ text.head? ≠ some '\n') :
    splitLines (char :: text) = ([char] :: (splitLines text).1, (splitLines text).2) := by
  rw [splitLines]
  · exact if_pos hbreak
  · rintro rfl rfl
    exact (h rfl).1 rfl
  · rintro chars rfl rfl
    exact (h rfl).2 rfl

theorem splitLines_plain {char : Char} (hplain : ¬(char = '\r' ∨ char = '\n')) (text : List Char) :
    splitLines (char :: text) =
      match (splitLines text).1 with
      | [] => ([], char :: (splitLines text).2)
      | line :: lines => ((char :: line) :: lines, (splitLines text).2) := by
  rw [splitLines]
  · exact if_neg hplain
  · exact fun hreturn => absurd (.inl hreturn) hplain
  · exact fun _ hreturn => absurd (.inl hreturn) hplain

/-- Splitting loses nothing. -/
theorem flatten_splitLines (text : List Char) :
    (splitLines text).1.flatten ++ (splitLines text).2 = text := by
  fun_induction splitLines text with
  | case1 => rfl
  | case2 => rfl
  | case3 chars split ih => simpa [split] using ih
  | case4 char chars _ _ split hbreak ih => simpa [split] using ih
  | case5 char chars _ _ split hbreak hnone ih => simpa [split, hnone] using ih
  | case6 char chars _ _ split hbreak line lines hsome ih => simpa [split, hsome] using ih

/-- **More text**: what is complete stays, and the rest is read on with. -/
theorem splitLines_append (a b : List Char) :
    splitLines (a ++ b) =
      ((splitLines a).1 ++ (splitLines ((splitLines a).2 ++ b)).1,
        (splitLines ((splitLines a).2 ++ b)).2) := by
  fun_induction splitLines a with
  | case1 => rfl
  | case2 => rfl
  | case3 chars split ih => simp [splitLines, split, ih]
  | case4 char chars hlone hpair split hbreak ih =>
    have hnext : char = '\r' → chars ++ b ≠ [] ∧ (chars ++ b).head? ≠ some '\n' := by
      rintro rfl
      cases chars with
      | nil => exact absurd rfl (hlone rfl)
      | cons next chars =>
        refine ⟨by simp, fun hhead => ?_⟩
        obtain rfl : next = '\n' := by simpa using hhead
        exact hpair chars rfl rfl
    rw [List.cons_append, splitLines_break hbreak hnext, ih]
    rfl
  | case5 char chars hlone hpair split hbreak hnone ih =>
    rw [List.cons_append, splitLines_plain hbreak, ih]
    simp only [hnone, split, List.nil_append, List.cons_append, splitLines_plain hbreak]
  | case6 char chars hlone hpair split hbreak line lines hsome ih =>
    rw [List.cons_append, splitLines_plain hbreak, ih]
    simp only [split, hsome, List.cons_append]

/-- The rest has no complete line. -/
theorem splitLines_rest (text : List Char) :
    splitLines (splitLines text).2 = ([], (splitLines text).2) := by
  have h := splitLines_append text []
  rw [List.append_nil, List.append_nil, Prod.ext_iff] at h
  exact Prod.ext (List.self_eq_append_right.1 h.1) h.2.symm

/-- **Chunks** give the lines of the whole text, wherever they are cut. -/
theorem decodeChunks_eq {chunks : List (List Byte)} {state final : Utf8State} {rest text : List Char}
    (hrest : splitLines rest = ([], rest))
    (htext : utf8Decode state chunks.flatten = some (text, final)) :
    decodeChunks state rest chunks =
      ((splitLines (rest ++ text)).1, some (final, (splitLines (rest ++ text)).2)) := by
  induction chunks generalizing state rest text with
  | nil =>
    obtain ⟨rfl, rfl⟩ := Prod.ext_iff.1 (Option.some.inj htext)
    rw [decodeChunks, List.append_nil, hrest]
  | cons chunk chunks ih =>
    rw [List.flatten_cons, utf8Decode_append] at htext
    obtain ⟨⟨first, between⟩, hfirst, htext⟩ := Option.bind_eq_some_iff.1 htext
    obtain ⟨⟨second, last⟩, hsecond, hboth⟩ := Option.map_eq_some_iff.1 htext
    obtain ⟨rfl, rfl⟩ := Prod.ext_iff.1 hboth
    have hread := ih (splitLines_rest (rest ++ first)) hsecond
    simp only [decodeChunks, hfirst, hread]
    rw [← List.append_assoc rest, splitLines_append (rest ++ first)]

/-! ### Records -/

/-- The records of a text, and the parser behind its last complete line. -/
def parseText (parser : CsvParser) (text : List Char) : List (List String) × Except String CsvParser :=
  parseLines parser (splitLines text).1

/-- A text that ends with a line. -/
def Ended (text : List Char) : Prop := text ≠ [] ∧ (splitLines text).2 = []

theorem Ended.exists_line {text : List Char} (h : Ended text) :
    ∃ line lines, (splitLines text).1 = line :: lines := by
  refine List.exists_cons_of_ne_nil fun hnone => h.1 ?_
  rw [← flatten_splitLines text, hnone, h.2]
  rfl

theorem Ended.cons {text : List Char} (h : Ended text) (char : Char) : Ended (char :: text) := by
  obtain ⟨line, lines, hlines⟩ := h.exists_line
  refine ⟨by simp, ?_⟩
  by_cases hbreak : char = '\r' ∨ char = '\n'
  · by_cases hpair : char = '\r' ∧ text.head? = some '\n'
    · obtain ⟨rfl, hhead⟩ := hpair
      obtain ⟨chars, rfl⟩ : ∃ chars, text = '\n' :: chars :=
        ⟨text.tail, (List.cons_head?_tail hhead).symm⟩
      have hrest := h.2
      rw [splitLines_break (.inr rfl) (by simp)] at hrest
      exact hrest
    · rw [splitLines_break hbreak fun hreturn => ⟨h.1, fun hhead => hpair ⟨hreturn, hhead⟩⟩]
      exact h.2
  · rw [splitLines_plain hbreak, hlines]
    exact h.2

theorem Ended.append {text : List Char} (h : Ended text) (chars : List Char) :
    Ended (chars ++ text) := by
  induction chars with
  | nil => exact h
  | cons char chars ih => exact ih.cons char

theorem ended_crlf {text : List Char} (h : (splitLines text).2 = []) :
    Ended ('\r' :: '\n' :: text) := ⟨by simp, h⟩

section Parse

variable {parser next : CsvParser} {text : List Char}

theorem processLine_cons {char : Char} (h : parser.process (some char) = .ok next)
    (line : List Char) : parser.processLine (char :: line) = next.processLine line := by
  rw [CsvParser.processLine, List.map_cons, List.cons_append, List.foldlM_cons, h]
  rfl

/-- A character inside a line. -/
theorem parseText_plain {char : Char} (hplain : ¬(char = '\r' ∨ char = '\n'))
    (hnext : parser.process (some char) = .ok next) (htext : Ended text) :
    parseText parser (char :: text) = parseText next text := by
  obtain ⟨line, lines, hlines⟩ := htext.exists_line
  rw [parseText, splitLines_plain hplain, parseText, hlines]
  simp only [parseLines, processLine_cons hnext]

/-- The end of a record. -/
theorem parseText_crlf (hnext : parser.process (some '\r') = .ok next) (hstate : next.state = .eatCrnl) :
    parseText parser ('\r' :: '\n' :: text) =
      (next.fields :: (parseText {} text).1, (parseText {} text).2) := by
  have hline : parser.processLine ['\r', '\n'] = .ok { next with state := .startRecord } := by
    obtain ⟨state, field, fields⟩ := next
    obtain rfl : state = .eatCrnl := hstate
    rw [processLine_cons hnext]
    rfl
  rw [parseText, splitLines, parseLines, hline]
  rfl

/-- Inside quotes the ends of line are like any other character. -/
theorem parseText_quoted {field : List Char} {fields : List String} {char : Char}
    (hquote : char ≠ '"') (hlimit : field.length < fieldLimit) (htext : Ended text) :
    parseText ⟨.inQuotedField, field, fields⟩ (char :: text) =
      parseText ⟨.inQuotedField, field ++ [char], fields⟩ text := by
  have hadd : ∀ c ≠ '"', ∀ field : List Char, field.length < fieldLimit →
      CsvParser.process ⟨.inQuotedField, field, fields⟩ (some c) =
        .ok ⟨.inQuotedField, field ++ [c], fields⟩ := by
    intro c hc field hfield
    simp only [CsvParser.process, if_neg hc, CsvParser.addChar, if_neg (Nat.not_le.2 hfield)]
  have hend : ∀ field : List Char, CsvParser.processLine ⟨.inQuotedField, field, fields⟩ [] =
      .ok ⟨.inQuotedField, field, fields⟩ := fun _ => rfl
  by_cases hbreak : char = '\r' ∨ char = '\n'
  · by_cases hpair : char = '\r' ∧ text.head? = some '\n'
    -- the line feed of the pair is the next character
    · obtain ⟨rfl, hhead⟩ := hpair
      obtain ⟨chars, rfl⟩ : ∃ chars, text = '\n' :: chars :=
        ⟨text.tail, (List.cons_head?_tail hhead).symm⟩
      rw [parseText, splitLines, parseText, splitLines_break (.inr rfl) (by simp)]
      simp only [parseLines, processLine_cons (hadd _ hquote _ hlimit)]
    · rw [parseText, parseText, splitLines_break hbreak fun hreturn =>
        ⟨htext.1, fun hhead => hpair ⟨hreturn, hhead⟩⟩]
      simp only [parseLines, processLine_cons (hadd _ hquote _ hlimit), hend]
      rfl
  · exact parseText_plain hbreak (hadd _ hquote _ hlimit) htext

theorem parseText_inField {fields : List String} {chars : List Char} (field : List Char)
    (hplain : ∀ char ∈ chars, isSpecial char = false)
    (hlimit : field.length + chars.length ≤ fieldLimit) (htext : Ended text) :
    parseText ⟨.inField, field, fields⟩ (chars ++ text) =
      parseText ⟨.inField, field ++ chars, fields⟩ text := by
  induction chars generalizing field with
  | nil => rw [List.nil_append, List.append_nil]
  | cons char chars ih =>
    obtain ⟨hchar, hchars⟩ := List.forall_mem_cons.1 hplain
    simp only [isSpecial, Bool.or_eq_false_iff, decide_eq_false_iff_not] at hchar
    obtain ⟨⟨⟨hcomma, -⟩, hreturn⟩, hfeed⟩ := hchar
    rw [List.length_cons] at hlimit
    have hadd : CsvParser.process ⟨.inField, field, fields⟩ (some char) =
        .ok ⟨.inField, field ++ [char], fields⟩ := by
      have hfield : ¬fieldLimit ≤ field.length := by omega
      simp only [CsvParser.process, hcomma, hreturn, hfeed, or_self, if_false, CsvParser.addChar,
        if_neg hfield]
    rw [List.cons_append, parseText_plain (by simp [hreturn, hfeed]) hadd (htext.append chars),
      ih _ hchars (by simp only [List.length_append, List.length_singleton]; omega),
      List.append_assoc, List.singleton_append]

theorem parseText_escaped {fields : List String} {chars : List Char} (field : List Char)
    (hlimit : field.length + chars.length ≤ fieldLimit) (htext : Ended text) :
    parseText ⟨.inQuotedField, field, fields⟩ (chars.flatMap escapeQuote ++ text) =
      parseText ⟨.inQuotedField, field ++ chars, fields⟩ text := by
  induction chars generalizing field with
  | nil => rw [List.flatMap_nil, List.nil_append, List.append_nil]
  | cons char chars ih =>
    rw [List.length_cons] at hlimit
    have hrest := htext.append (chars.flatMap escapeQuote)
    have hread : parseText ⟨.inQuotedField, field, fields⟩
        (escapeQuote char ++ (chars.flatMap escapeQuote ++ text)) =
          parseText ⟨.inQuotedField, field ++ [char], fields⟩
            (chars.flatMap escapeQuote ++ text) := by
      by_cases hquote : char = '"'
      · subst hquote
        have hadd : CsvParser.process ⟨.quoteInQuotedField, field, fields⟩ (some '"') =
            .ok ⟨.inQuotedField, field ++ ['"'], fields⟩ := by
          have hfield : ¬fieldLimit ≤ field.length := by omega
          simp only [CsvParser.process, if_true, CsvParser.addChar, if_neg hfield]
        have hplain : ¬('"' = '\r' ∨ '"' = '\n') := by decide
        rw [escapeQuote, if_pos rfl, List.cons_append, List.singleton_append,
          parseText_plain hplain rfl (hrest.cons _), parseText_plain hplain hadd hrest]
      · rw [escapeQuote, if_neg hquote, List.singleton_append]
        exact parseText_quoted hquote (by omega) hrest
    rw [List.flatMap_cons, List.append_assoc, hread,
      ih _ (by simp only [List.length_append, List.length_singleton]; omega),
      List.append_assoc, List.singleton_append]

/-- Where a field may begin. -/
def CsvState.Begins (state : CsvState) : Prop := state = .startRecord ∨ state = .startField

/-- Where a field may end. -/
def CsvParser.Finishes (parser : CsvParser) (state : CsvState) : Prop :=
  parser.state = .inField ∨ parser.state = .quoteInQuotedField ∨
    parser.state = state ∧ parser.field = []

/-- **A field** is read up to the character behind it. -/
theorem parseText_csvField {state : CsvState} (hstate : state.Begins) (fields : List String)
    {field : List Char} (hlimit : field.length ≤ fieldLimit) (htext : Ended text) :
    ∃ state', CsvParser.Finishes ⟨state', field, fields⟩ state ∧
      parseText ⟨state, [], fields⟩ (csvField field ++ text) =
        parseText ⟨state', field, fields⟩ text := by
  have hplain : ¬('"' = '\r' ∨ '"' = '\n') := by decide
  by_cases hspecial : field.any isSpecial = true
  · refine ⟨.quoteInQuotedField, .inr (.inl rfl), ?_⟩
    have hopen : CsvParser.process ⟨state, [], fields⟩ (some '"') =
        .ok ⟨.inQuotedField, [], fields⟩ := by
      rcases hstate with rfl | rfl <;> rfl
    rw [csvField, if_pos hspecial, quoted, List.cons_append, List.append_assoc,
      List.singleton_append,
      parseText_plain hplain hopen ((htext.cons _).append _), parseText_escaped [] _ (htext.cons _),
      parseText_plain hplain rfl htext, List.nil_append]
    rw [List.length_nil, Nat.zero_add]
    exact hlimit
  · rw [csvField, if_neg hspecial]
    cases field with
    | nil => exact ⟨state, .inr (.inr ⟨rfl, rfl⟩), rfl⟩
    | cons char chars =>
      refine ⟨.inField, .inl rfl, ?_⟩
      have hnone : ∀ c ∈ char :: chars, isSpecial c = false := by simpa using hspecial
      obtain ⟨hchar, hchars⟩ := List.forall_mem_cons.1 hnone
      simp only [isSpecial, Bool.or_eq_false_iff, decide_eq_false_iff_not] at hchar
      obtain ⟨⟨⟨hcomma, hquote⟩, hreturn⟩, hfeed⟩ := hchar
      have hfirst : CsvParser.process ⟨state, [], fields⟩ (some char) =
          .ok ⟨.inField, [char], fields⟩ := by
        rcases hstate with rfl | rfl <;>
          simp [CsvParser.process, CsvParser.startField, CsvParser.addChar, hcomma, hquote, hreturn,
            hfeed, fieldLimit]
      rw [List.length_cons] at hlimit
      rw [List.cons_append, parseText_plain (by simp [hreturn, hfeed]) hfirst (htext.append chars),
        parseText_inField [char] hchars _ htext, List.singleton_append]
      rw [List.length_singleton]
      omega

/-- A comma saves the field. -/
theorem parseText_comma {state : CsvState} (hstate : state.Begins)
    (hparser : parser.Finishes state) (htext : Ended text) :
    parseText parser (',' :: text) =
      parseText ⟨.startField, [], parser.fields ++ [String.ofList parser.field]⟩ text := by
  have hcomma : parser.process (some ',') = .ok (parser.saveField .startField) := by
    obtain ⟨state', field, fields⟩ := parser
    rcases hparser with hfin | hfin | ⟨hfin, hempty⟩
    · cases hfin
      rfl
    · cases hfin
      rfl
    · cases hfin
      rcases hstate with rfl | rfl <;> rfl
  exact parseText_plain (by decide) hcomma htext

/-- The end of a line saves the field and the record. -/
theorem parseText_last {state : CsvState} (hstate : state.Begins)
    (hparser : parser.Finishes state) (hfield : state = .startRecord → parser.field ≠ [] ∨
      parser.state = .quoteInQuotedField) :
    parseText parser ('\r' :: '\n' :: text) =
      ((parser.fields ++ [String.ofList parser.field]) :: (parseText {} text).1,
        (parseText {} text).2) := by
  have hreturn : parser.process (some '\r') = .ok (parser.saveField .eatCrnl) := by
    obtain ⟨state', field, fields⟩ := parser
    rcases hparser with hfin | hfin | ⟨hfin, hempty⟩
    · cases hfin
      rfl
    · cases hfin
      rfl
    · cases hfin
      rcases hstate with rfl | rfl
      · rcases hfield rfl with hne | hquote
        · exact absurd hempty hne
        · cases hquote
      · rfl
  exact parseText_crlf hreturn rfl

/-- **The fields of a record.** -/
theorem parseText_csvFields {state : CsvState} (hstate : state.Begins) {record : List (List Char)}
    {fields : List String} (hne : record ≠ []) (hsingle : state = .startRecord → record ≠ [[]])
    (hlimit : ∀ field ∈ record, field.length ≤ fieldLimit) (htext : (splitLines text).2 = []) :
    parseText ⟨state, [], fields⟩ (csvFields record ++ '\r' :: '\n' :: text) =
      ((fields ++ record.map String.ofList) :: (parseText {} text).1, (parseText {} text).2) := by
  induction record generalizing state fields with
  | nil => exact absurd rfl hne
  | cons field record ih =>
    obtain ⟨hfield, hrecord⟩ := List.forall_mem_cons.1 hlimit
    cases record with
    | nil =>
      obtain ⟨state', hfinishes, hread⟩ :=
        parseText_csvField hstate fields hfield (ended_crlf htext)
      rw [csvFields, hread, parseText_last hstate hfinishes fun hstart => .inl ?_]
      · rfl
      · rintro rfl
        exact hsingle hstart rfl
    | cons second rest =>
      have hended : Ended (',' :: (csvFields (second :: rest) ++ '\r' :: '\n' :: text)) :=
        ((ended_crlf htext).append _).cons _
      obtain ⟨state', hfinishes, hread⟩ :=
        parseText_csvField hstate fields hfield hended
      rw [csvFields, List.append_assoc, List.cons_append, hread,
        parseText_comma hstate hfinishes ((ended_crlf htext).append _),
        ih (.inr rfl) (by simp) nofun hrecord, List.append_assoc]
      · rfl
      · exact nofun

/-- **A record.** -/
theorem parseText_csvRecord {record : List String}
    (hlimit : ∀ field ∈ record, field.length ≤ fieldLimit) (htext : (splitLines text).2 = []) :
    parseText {} (csvRecord record ++ text) =
      (record :: (parseText {} text).1, (parseText {} text).2) := by
  have hplain : ¬('"' = '\r' ∨ '"' = '\n') := by decide
  by_cases hsingle : record = [""]
  · subst hsingle
    have hended : Ended ('"' :: '\r' :: '\n' :: text) := (ended_crlf htext).cons _
    rw [csvRecord, if_pos rfl]
    simp only [List.cons_append, List.nil_append]
    rw [parseText_plain hplain rfl hended, parseText_plain hplain rfl (ended_crlf htext),
      parseText_crlf rfl rfl]
    rfl
  · rw [csvRecord, if_neg hsingle, List.append_assoc]
    simp only [List.cons_append, List.nil_append]
    cases record with
    | nil =>
      rw [List.map_nil, csvFields, List.nil_append, parseText_crlf rfl rfl]
    | cons field record =>
      rw [parseText_csvFields (.inl rfl) (by simp) _ _ htext, List.nil_append, List.map_map]
      · simp
      · rintro - hempty
        simp only [List.map_cons, List.cons.injEq, List.map_eq_nil_iff] at hempty
        obtain ⟨hfield, rfl⟩ := hempty
        exact hsingle (by rw [String.toList_eq_nil_iff.1 hfield])
      · simpa [String.length_toList] using hlimit

end Parse

/-! ### Files -/

/-- The columns of a row that is as long as the header. -/
theorem rowOf_of_length {fieldnames record : List String} (h : record.length = fieldnames.length) :
    rowOf fieldnames record = fieldnames.zip (record.map some) := by
  rw [rowOf, h, List.drop_length, List.map_nil, List.append_nil]

theorem parseText_csvText {records : List (List String)}
    (hlimit : ∀ record ∈ records, ∀ field ∈ record, field.length ≤ fieldLimit) :
    parseText {} (csvText records) = (records, .ok {}) ∧ (splitLines (csvText records)).2 = [] := by
  induction records with
  | nil => exact ⟨rfl, rfl⟩
  | cons record records ih =>
    obtain ⟨hrecord, hrecords⟩ := List.forall_mem_cons.1 hlimit
    obtain ⟨hparse, hended⟩ := ih hrecords
    have hcons : csvText (record :: records) = csvRecord record ++ csvText records := rfl
    rw [hcons, parseText_csvRecord hrecord hended, hparse]
    refine ⟨rfl, ?_⟩
    rw [csvRecord, List.append_assoc]
    exact ((ended_crlf hended).append _).2

section Reading

variable {ε : Type*} {unicodeError : ε} {csvError : String → ε}

/-- A whole text is read in its lines, whatever the chunks. -/
theorem textReading_utf8Encode {text : List Char} (htext : (splitLines text).2 = [])
    {chunks : List (List Byte)} (hchunks : chunks.flatten = utf8Encode text) :
    textReading unicodeError chunks none = ⟨(splitLines text).1, none⟩ := by
  have hdecode : utf8Decode {} chunks.flatten = some (text, {}) := by
    rw [hchunks, utf8Decode_utf8Encode]
  have hnothing : splitLines [] = ([], []) := rfl
  have hlines := decodeChunks_eq hnothing hdecode
  simp only [textReading, hlines, List.nil_append, htext]
  simp

/-- **What is written is read**, in any chunks: the rows under the names of the header. -/
theorem csvReading_written {fieldnames : List String} {records : List (List String)}
    (hlimit : ∀ record ∈ fieldnames :: records, ∀ field ∈ record, field.length ≤ fieldLimit)
    (hne : fieldnames ≠ []) (hlength : ∀ record ∈ records, record.length = fieldnames.length)
    {chunks : List (List Byte)}
    (hchunks : chunks.flatten = utf8Encode (csvText (fieldnames :: records))) :
    csvReading unicodeError csvError chunks none =
      ⟨records.map fun record => fieldnames.zip (record.map some), none⟩ := by
  obtain ⟨hparse, hended⟩ := parseText_csvText hlimit
  have hrecords : recordReading csvError (textReading unicodeError chunks none) =
      ⟨fieldnames :: records, none⟩ := by
    rw [textReading_utf8Encode hended hchunks]
    simp only [parseText] at hparse
    simp [recordReading, hparse]
  have hkept : records.filter (· ≠ []) = records := by
    refine List.filter_eq_self.2 fun record hrecord => ?_
    have hpos := List.length_pos_of_ne_nil hne
    rw [← hlength record hrecord] at hpos
    simpa using List.ne_nil_of_length_pos hpos
  rw [csvReading, hrecords, dictRows, hkept]
  congr 1
  exact List.map_congr_left fun record hrecord => rowOf_of_length (hlength record hrecord)

end Reading

end CsvText
