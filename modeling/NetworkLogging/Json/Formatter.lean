import NetworkLogging.Json.Reader

/-! # `JSONLogFormatter`

`formatMessage` renders a log message as one JSON object followed by a line
feed, in an indented layout or a compact one.  It escapes the category name, the
file, the function and the message with `escapeJsonString`, writes the line and
the thread id as decimal numerals, and inserts the timestamp and the level's
name as they are.

Read back as JSON (`Folly.Json.readObject`), the output gives exactly those eight
members with the original strings, provided the timestamp needs no escape
(`formatMessage_reads_back`).  Two lemmas carry it: every byte string survives
`escapeJsonString` and JSON's decoding (`readChars_escapeJsonString`), and both
format strings lay the eight members out as an object text
(`formatMessage_compact`, `formatMessage_pretty`).  In the compact layout the
trailing line feed is the only one, so the records form a newline-delimited
stream.

`folly::format` is modelled for what the two format strings use: `{{` and `}}`
for braces, and `{}` for the next argument, rendered as `folly::format` renders a
`std::string` (as it is) or an unsigned integer (as a decimal numeral).  The
format strings are the source's, with each brace written `\x7b` or `\x7d`.
-/
namespace Folly

/-- `JSONLogFormatter`. -/
structure JSONLogFormatter where
  prettyPrint : Bool

namespace JSONLogFormatter
open Json

/-- The values of `LogLevel` that `formatMessage` compares with; `LogLevel.h`
declares them outside the source. -/
structure LogLevels where
  info : Nat
  warn : Nat
  err : Nat
  critical : Nat
  dfatal : Nat

/-- What `formatMessage` reads of a `LogMessage`: its level, its category's
name, file, line, function, thread id and text. -/
structure LogMessage where
  level : Nat
  category : Bytes
  file : Bytes
  line : Nat
  function : Bytes
  threadId : Nat
  message : Bytes

/-- The level name of `formatMessage`.  The chain of comparisons assigns a name
on every path, so the initial `"UNKNOWN"` is never the result. -/
def levelName (levels : LogLevels) (level : Nat) : Bytes :=
  if level < levels.info then ascii "VERBOSE"
  else if level < levels.warn then ascii "INFO"
  else if level < levels.err then ascii "WARN"
  else if level < levels.critical then ascii "ERROR"
  else if level < levels.dfatal then ascii "CRITICAL"
  else ascii "FATAL"

/-- A lowercase hexadecimal digit. -/
def hexDigit (d : Nat) : UInt8 := if d < 10 then (0x30 + d).toUInt8 else (0x61 + d - 10).toUInt8

/-- `folly::format("{:04x}", n)` for `n < 0x10000`. -/
def hex4 (n : Nat) : Bytes :=
  [hexDigit (n / 4096 % 16), hexDigit (n / 256 % 16), hexDigit (n / 16 % 16), hexDigit (n % 16)]

/-- One iteration of the loop of `escapeJsonString`. -/
def escapeChar (c : UInt8) : Bytes :=
  if c = 0x22 then ascii "\\\""
  else if c = 0x5c then ascii "\\\\"
  else if c = 0x08 then ascii "\\b"
  else if c = 0x0c then ascii "\\f"
  else if c = 0x0a then ascii "\\n"
  else if c = 0x0d then ascii "\\r"
  else if c = 0x09 then ascii "\\t"
  else if c < 0x20 ∨ c = 0x7f then ascii "\\u" ++ hex4 c.toNat
  else [c]

/-- `JSONLogFormatter::escapeJsonString`. -/
def escapeJsonString : Bytes → Bytes
  | [] => []
  | c :: cs => escapeChar c ++ escapeJsonString cs

/-- `folly::format(fmt, args...).str()` for format strings made of text, `{{`,
`}}` and `{}`, each argument already rendered. -/
def format : Bytes → List Bytes → Bytes
  | [], _ => []
  | [c], _ => [c]
  | c :: tl@(d :: rest), args =>
    if c = 0x7b ∧ d = 0x7b then 0x7b :: format rest args
    else if c = 0x7d ∧ d = 0x7d then 0x7d :: format rest args
    else if c = 0x7b ∧ d = 0x7d then args.headD [] ++ format rest args.tail
    else c :: format tl args

/-- The format string of the indented layout. -/
def prettyFormat : String :=
  "\x7b\x7b\n" ++
  "  \"timestamp\": \"\x7b\x7d\",\n" ++
  "  \"level\": \"\x7b\x7d\",\n" ++
  "  \"category\": \"\x7b\x7d\",\n" ++
  "  \"file\": \"\x7b\x7d\",\n" ++
  "  \"line\": \x7b\x7d,\n" ++
  "  \"function\": \"\x7b\x7d\",\n" ++
  "  \"thread_id\": \x7b\x7d,\n" ++
  "  \"message\": \"\x7b\x7d\"\n" ++
  "\x7d\x7d\n"

/-- The format string of the compact layout. -/
def compactFormat : String :=
  "\x7b\x7b\"timestamp\":\"\x7b\x7d\",\"level\":\"\x7b\x7d\",\"category\":\"\x7b\x7d\",\"file\":\"\x7b\x7d\",\"line\":\x7b\x7d,\"function\":\"\x7b\x7d\",\"thread_id\":\x7b\x7d,\"message\":\"\x7b\x7d\"\x7d\x7d\n"

/-- `JSONLogFormatter::formatMessage`, with `formatTimestamp`'s result for the
message. -/
def formatMessage (self : JSONLogFormatter) (levels : LogLevels)
    (formatTimestamp : LogMessage → Bytes) (message : LogMessage) : Bytes :=
  let levelName := levelName levels message.level
  let timestamp := formatTimestamp message
  let escapedMessage := escapeJsonString message.message
  let escapedCategory := escapeJsonString message.category
  let escapedFile := escapeJsonString message.file
  let escapedFunction := escapeJsonString message.function
  let args := [timestamp, levelName, escapedCategory, escapedFile, decimal message.line,
    escapedFunction, decimal message.threadId, escapedMessage]
  if self.prettyPrint then format (ascii prettyFormat) args
  else format (ascii compactFormat) args

/-! ## Escaping is undone by reading -/

theorem hexValue_hexDigit : ∀ d, d < 16 → hexValue (hexDigit d) = some d := by decide

theorem hexDigit_ne_newline : ∀ d, d < 16 → hexDigit d ≠ 0x0a := by decide

/-- **What one iteration of the loop writes**: a two-byte escape, a `\u` escape
for the other control bytes and `0x7f`, or the byte itself. -/
theorem escapeChar_cases (c : UInt8) :
    (∃ e, simpleEscape e = some c ∧ escapeChar c = [0x5c, e]) ∨
    ((c < 0x20 ∨ c = 0x7f) ∧ escapeChar c = 0x5c :: 0x75 :: hex4 c.toNat) ∨
    (isUnescaped c = true ∧ escapeChar c = [c]) := by
  by_cases h1 : c = 0x22; · subst h1; exact .inl ⟨0x22, rfl, rfl⟩
  by_cases h2 : c = 0x5c; · subst h2; exact .inl ⟨0x5c, rfl, rfl⟩
  by_cases h3 : c = 0x08; · subst h3; exact .inl ⟨0x62, rfl, rfl⟩
  by_cases h4 : c = 0x0c; · subst h4; exact .inl ⟨0x66, rfl, rfl⟩
  by_cases h5 : c = 0x0a; · subst h5; exact .inl ⟨0x6e, rfl, rfl⟩
  by_cases h6 : c = 0x0d; · subst h6; exact .inl ⟨0x72, rfl, rfl⟩
  by_cases h7 : c = 0x09; · subst h7; exact .inl ⟨0x74, rfl, rfl⟩
  have hrest : escapeChar c = if c < 0x20 ∨ c = 0x7f then ascii "\\u" ++ hex4 c.toNat else [c] := by
    rw [escapeChar, if_neg h1, if_neg h2, if_neg h3, if_neg h4, if_neg h5, if_neg h6, if_neg h7]
  by_cases h8 : c < 0x20 ∨ c = 0x7f
  · exact .inr (.inl ⟨h8, by rw [hrest, if_pos h8]; rfl⟩)
  · refine .inr (.inr ⟨?_, by rw [hrest, if_neg h8]⟩)
    simp only [not_or] at h8
    simp only [isUnescaped, Bool.and_eq_true, decide_eq_true_eq, bne_iff_ne, ne_eq]
    refine ⟨⟨?_, h1⟩, h2⟩
    have := h8.1
    simp only [UInt8.le_def, UInt8.lt_def, BitVec.le_def, BitVec.lt_def] at *
    omega

/-- The four digits of a byte below `0x80` read back as the byte. -/
theorem hex4_utf8 {c : UInt8} (h : c.toNat < 0x80) :
    hex4Value (hexDigit (c.toNat / 4096 % 16)) (hexDigit (c.toNat / 256 % 16))
      (hexDigit (c.toNat / 16 % 16)) (hexDigit (c.toNat % 16)) >>= utf8 = some [c] := by
  simp only [hex4Value, hexValue_hexDigit _ (Nat.mod_lt _ (by norm_num : 0 < 16)),
    Option.bind_eq_bind, Option.some_bind, Option.pure_def]
  have hv : ((c.toNat / 4096 % 16 * 16 + c.toNat / 256 % 16) * 16 + c.toNat / 16 % 16) * 16 +
      c.toNat % 16 = c.toNat := by omega
  rw [hv]
  simp [utf8, h, toUInt8_toNat]

/-- **One escaped byte reads as the byte.** -/
theorem readChars_escapeChar (c : UInt8) (t : Bytes) :
    readChars (escapeChar c ++ t) = prepend [c] (readChars t) := by
  rcases escapeChar_cases c with ⟨e, he, hc⟩ | ⟨hlo, hc⟩ | ⟨hu, hc⟩ <;> rw [hc]
  · exact readChars_escape he t
  · have hlt : c.toNat < 0x80 := by
      rcases hlo with h | h
      · simp only [UInt8.lt_def, BitVec.lt_def] at h; exact lt_trans h (by decide)
      · subst h; decide
    exact readChars_unicode (hex4_utf8 hlt) t
  · exact readChars_cons hu t

/-- **`escapeJsonString` is undone by JSON's decoding**, for every byte string. -/
theorem readChars_escapeJsonString (s t : Bytes) :
    readChars (escapeJsonString s ++ 0x22 :: t) = some (s, t) := by
  induction s with
  | nil => simp [escapeJsonString, readChars]
  | cons c s ih =>
    rw [escapeJsonString, List.append_assoc, readChars_escapeChar, ih]
    rfl

/-- An escaped string between quotes. -/
theorem reads_escaped (s : Bytes) : Reads (0x22 :: escapeJsonString s ++ [0x22]) (.string s) := by
  intro w t hw _
  rw [List.append_assoc, skipWs_append hw]
  simp [skipWs_cons (show isWs 0x22 = false from rfl), readValue, readChars_escapeJsonString]

theorem newline_not_mem_hex4 (n : Nat) : (0x0a : UInt8) ∉ hex4 n := by
  have h := fun m => hexDigit_ne_newline (m % 16) (Nat.mod_lt _ (by norm_num))
  simp only [hex4, List.mem_cons, List.not_mem_nil, or_false, not_or]
  exact ⟨(h _).symm, (h _).symm, (h _).symm, (h _).symm⟩

theorem escapeChar_ne_newline (c : UInt8) : (0x0a : UInt8) ∉ escapeChar c := by
  rcases escapeChar_cases c with ⟨e, he, hc⟩ | ⟨-, hc⟩ | ⟨hu, hc⟩ <;> rw [hc]
  · have he' : e ≠ 0x0a := fun h => by
      subst h; rw [show simpleEscape 0x0a = none from rfl] at he; cases he
    simp only [List.mem_cons, List.not_mem_nil, or_false, not_or]
    exact ⟨by decide, he'.symm⟩
  · simp only [List.mem_cons, not_or]
    exact ⟨by decide, by decide, newline_not_mem_hex4 _⟩
  · simp only [List.mem_singleton]
    intro h; subst h; exact absurd hu (by decide)

theorem escapeJsonString_ne_newline (s : Bytes) : (0x0a : UInt8) ∉ escapeJsonString s := by
  induction s with
  | nil => simp [escapeJsonString]
  | cons c s ih => simp only [escapeJsonString, List.mem_append, not_or]; exact ⟨escapeChar_ne_newline c, ih⟩

/-! ## The two layouts -/

theorem levelName_unescaped (levels : LogLevels) (level : Nat) :
    (levelName levels level).all isUnescaped = true := by
  unfold levelName; split_ifs <;> decide

/-- The timestamp member: its key, its text as `formatMessage` writes it, and
the string it stands for. -/
def timestampField (timestamp : Bytes) : Field :=
  ⟨ascii "timestamp", 0x22 :: timestamp ++ [0x22], .string timestamp⟩

/-- The other seven members. -/
def messageFields (levels : LogLevels) (message : LogMessage) : List Field :=
  [⟨ascii "level", 0x22 :: levelName levels message.level ++ [0x22],
      .string (levelName levels message.level)⟩,
    ⟨ascii "category", 0x22 :: escapeJsonString message.category ++ [0x22], .string message.category⟩,
    ⟨ascii "file", 0x22 :: escapeJsonString message.file ++ [0x22], .string message.file⟩,
    ⟨ascii "line", decimal message.line, .number message.line⟩,
    ⟨ascii "function", 0x22 :: escapeJsonString message.function ++ [0x22], .string message.function⟩,
    ⟨ascii "thread_id", decimal message.threadId, .number message.threadId⟩,
    ⟨ascii "message", 0x22 :: escapeJsonString message.message ++ [0x22], .string message.message⟩]

section Layouts
variable (levels : LogLevels) (formatTimestamp : LogMessage → Bytes) (message : LogMessage)

set_option maxRecDepth 20000 in
theorem formatMessage_compact :
    formatMessage ⟨false⟩ levels formatTimestamp message =
      objectText [] [] [] (timestampField (formatTimestamp message)) (messageFields levels message) ++
        [0x0a] := by
  simp [formatMessage, format, ascii, Nat.toUInt8, compactFormat, objectText, memberText,
    moreMembersText, timestampField, messageFields]

set_option maxRecDepth 20000 in
theorem formatMessage_pretty :
    formatMessage ⟨true⟩ levels formatTimestamp message =
      objectText (ascii "\n  ") (ascii " ") (ascii "\n") (timestampField (formatTimestamp message))
        (messageFields levels message) ++ [0x0a] := by
  simp [formatMessage, format, ascii, Nat.toUInt8, prettyFormat, objectText, memberText,
    moreMembersText, timestampField, messageFields]

end Layouts

/-- The keys of the other seven members. -/
theorem messageFields_keys (levels : LogLevels) (message : LogMessage) :
    (messageFields levels message).map Field.key =
      [ascii "level", ascii "category", ascii "file", ascii "line", ascii "function",
        ascii "thread_id", ascii "message"] := rfl

theorem messageFields_valid (levels : LogLevels) (message : LogMessage) :
    ∀ f ∈ messageFields levels message, f.Valid := by
  intro f hf
  have hkey : f.key.all isUnescaped = true := by
    have := List.mem_map_of_mem Field.key hf
    rw [messageFields_keys] at this
    revert this; generalize f.key = k; revert k; decide
  refine ⟨hkey, ?_⟩
  simp only [messageFields, List.mem_cons, List.not_mem_nil, or_false] at hf
  rcases hf with rfl | rfl | rfl | rfl | rfl | rfl | rfl
  · exact reads_unescaped (levelName_unescaped levels message.level)
  · exact reads_escaped _
  · exact reads_escaped _
  · exact reads_decimal _
  · exact reads_escaped _
  · exact reads_decimal _
  · exact reads_escaped _

theorem newline_not_mem_of_unescaped {s : Bytes} (hs : s.all isUnescaped = true) :
    (0x0a : UInt8) ∉ s := fun h => by
  have := List.all_eq_true.mp hs _ h
  revert this; decide

theorem newline_not_mem_decimal (n : Nat) : (0x0a : UInt8) ∉ decimal n := fun h => by
  have := decimal_all_digits n _ h
  revert this; decide

theorem messageFields_newline_free (levels : LogLevels) (message : LogMessage) :
    ∀ f ∈ messageFields levels message, (0x0a : UInt8) ∉ f.key ∧ (0x0a : UInt8) ∉ f.text := by
  have hq : ∀ s : Bytes, (0x0a : UInt8) ∉ s → (0x0a : UInt8) ∉ 0x22 :: s ++ [0x22] := fun s hs => by
    simp only [List.cons_append, List.mem_cons, List.mem_append, List.mem_singleton, not_or]
    exact ⟨by decide, hs, by decide⟩
  intro f hf
  have hkey : (0x0a : UInt8) ∉ f.key := by
    have := List.mem_map_of_mem Field.key hf
    rw [messageFields_keys] at this
    revert this; generalize f.key = k; revert k; decide
  refine ⟨hkey, ?_⟩
  simp only [messageFields, List.mem_cons, List.not_mem_nil, or_false] at hf
  rcases hf with rfl | rfl | rfl | rfl | rfl | rfl | rfl
  · exact hq _ (newline_not_mem_of_unescaped (levelName_unescaped levels message.level))
  · exact hq _ (escapeJsonString_ne_newline _)
  · exact hq _ (escapeJsonString_ne_newline _)
  · exact newline_not_mem_decimal _
  · exact hq _ (escapeJsonString_ne_newline _)
  · exact newline_not_mem_decimal _
  · exact hq _ (escapeJsonString_ne_newline _)

/-- The members a reader finds in the record of `message`: the timestamp, the
level's name, the category name, the file, the line, the function, the thread
id and the message. -/
def record (levels : LogLevels) (timestamp : Bytes) (message : LogMessage) : List (Bytes × Value) :=
  [(ascii "timestamp", .string timestamp), (ascii "level", .string (levelName levels message.level)),
    (ascii "category", .string message.category), (ascii "file", .string message.file),
    (ascii "line", .number message.line), (ascii "function", .string message.function),
    (ascii "thread_id", .number message.threadId), (ascii "message", .string message.message)]

/-- **Every record reads back.**  For every message, and every timestamp that
needs no escape, `formatMessage` returns an object text followed by one line
feed, in either layout.  Its members are the timestamp, the level's name, the
category name, the file, the line, the function, the thread id and the message,
and their values decode to exactly those; `escapeJsonString` is undone by JSON's
decoding for every byte string.  In the compact layout the trailing line feed is
the only one. -/
theorem formatMessage_reads_back (formatter : JSONLogFormatter) (levels : LogLevels)
    (formatTimestamp : LogMessage → Bytes) (message : LogMessage)
    (hts : (formatTimestamp message).all isUnescaped = true) :
    readObject (formatter.formatMessage levels formatTimestamp message) =
      some (record levels (formatTimestamp message) message, [0x0a]) ∧
    (∀ s rest, readString (0x22 :: escapeJsonString s ++ 0x22 :: rest) = some (s, rest)) ∧
    (formatter.prettyPrint = false → ∃ body,
      formatter.formatMessage levels formatTimestamp message = body ++ [0x0a] ∧ (0x0a : UInt8) ∉ body) := by
  have hts' : (timestampField (formatTimestamp message)).Valid :=
    ⟨(by decide : (ascii "timestamp").all isUnescaped = true), reads_unescaped hts⟩
  have hfs := messageFields_valid levels message
  have hnil : ([] : Bytes).all isWs = true := rfl
  refine ⟨?_, fun s rest => ?_, fun hp => ?_⟩
  · obtain ⟨prettyPrint⟩ := formatter
    cases prettyPrint
    · rw [formatMessage_compact, readObject_objectText hnil hnil hnil hts' hfs]; rfl
    · rw [formatMessage_pretty, readObject_objectText (by decide) (by decide) (by decide) hts' hfs]
      rfl
  · simp [readString, readChars_escapeJsonString]
  · obtain ⟨prettyPrint⟩ := formatter
    cases hp
    refine ⟨_, formatMessage_compact levels formatTimestamp message, ?_⟩
    refine not_mem_objectText (by decide) (List.not_mem_nil _) (List.not_mem_nil _)
      (List.not_mem_nil _) fun g hg => ?_
    rcases List.mem_cons.mp hg with rfl | hg
    · refine ⟨show (0x0a : UInt8) ∉ ascii "timestamp" by decide, ?_⟩
      simp only [timestampField, List.cons_append, List.mem_cons, List.mem_append,
        List.mem_singleton, not_or]
      exact ⟨by decide, newline_not_mem_of_unescaped hts, by decide⟩
    · exact messageFields_newline_free levels message g hg

/-- Level values to try the formatter with. -/
def sampleLevels : LogLevels := ⟨2000, 3000, 4000, 5000, 0x7ffffffe⟩

/-- A warning whose text holds a quote, a backslash, a line feed, a tab, a
control byte and `0x7f`. -/
def sampleMessage : LogMessage :=
  ⟨3000, ascii "folly.logging", ascii "src/a.cpp", 42, ascii "main", 7,
    [0x22, 0x5c, 0x0a, 0x09, 0x01, 0x7f]⟩

/-- A timestamp as `formatTimestamp` prints one. -/
def sampleTimestamp (_ : LogMessage) : Bytes := ascii "2024-01-01T00:00:00.000000"

theorem sampleRecord_reads_back :
    (sampleTimestamp sampleMessage).all isUnescaped = true ∧
    readObject ((⟨false⟩ : JSONLogFormatter).formatMessage sampleLevels sampleTimestamp sampleMessage) =
      some (record sampleLevels (sampleTimestamp sampleMessage) sampleMessage, [0x0a]) ∧
    (∀ s rest, readString (0x22 :: escapeJsonString s ++ 0x22 :: rest) = some (s, rest)) ∧
    ((⟨false⟩ : JSONLogFormatter).prettyPrint = false → ∃ body,
      (⟨false⟩ : JSONLogFormatter).formatMessage sampleLevels sampleTimestamp sampleMessage =
        body ++ [0x0a] ∧ (0x0a : UInt8) ∉ body) :=
  ⟨by decide, formatMessage_reads_back ⟨false⟩ sampleLevels sampleTimestamp sampleMessage (by decide)⟩

/-! ## No control byte reaches the log

`escapeJsonString` writes every control byte, and `0x7f`, as an escape made of
printable bytes, and the two layouts add only punctuation, spaces and line
feeds.  So whatever a message holds, the only control bytes of its record are
the layout's line feeds (`formatMessage_control_free`): no carriage return, no
terminal escape and no `NUL` from a message reaches the log.
-/

/-- A control byte: below `0x20`, or `0x7f`. -/
def isControl (b : UInt8) : Bool := b < 0x20 || b == 0x7f

theorem isControl_hexDigit : ∀ d, d < 16 → isControl (hexDigit d) = false := by decide

/-- The eight bytes that name an escape are printable. -/
theorem isControl_of_simpleEscape {e c : UInt8} (h : simpleEscape e = some c) :
    isControl e = false := by
  by_cases h1 : e = 0x22; · subst h1; rfl
  by_cases h2 : e = 0x5c; · subst h2; rfl
  by_cases h3 : e = 0x2f; · subst h3; rfl
  by_cases h4 : e = 0x62; · subst h4; rfl
  by_cases h5 : e = 0x66; · subst h5; rfl
  by_cases h6 : e = 0x6e; · subst h6; rfl
  by_cases h7 : e = 0x72; · subst h7; rfl
  by_cases h8 : e = 0x74; · subst h8; rfl
  rw [simpleEscape, if_neg h1, if_neg h2, if_neg h3, if_neg h4, if_neg h5, if_neg h6, if_neg h7,
    if_neg h8] at h
  cases h

theorem isControl_escapeChar (c : UInt8) : ∀ b ∈ escapeChar c, isControl b = false := by
  rcases escapeChar_cases c with ⟨e, he, hc⟩ | ⟨-, hc⟩ | ⟨hu, hc⟩ <;> rw [hc]
  · simp only [List.mem_cons, List.not_mem_nil, or_false]
    rintro b (rfl | rfl)
    exacts [rfl, isControl_of_simpleEscape he]
  · have hd := fun n => isControl_hexDigit (n % 16) (Nat.mod_lt _ (by norm_num))
    simp only [hex4, List.mem_cons, List.not_mem_nil, or_false]
    rintro b (rfl | rfl | rfl | rfl | rfl | rfl)
    exacts [rfl, rfl, hd _, hd _, hd _, hd _]
  · intro b hb
    rw [List.mem_singleton.1 hb]
    have h7f : c ≠ 0x7f := by rintro rfl; exact absurd hc (by decide)
    simp only [isUnescaped, Bool.and_eq_true, decide_eq_true_eq] at hu
    simp only [isControl, Bool.or_eq_false_iff, decide_eq_false_iff_not, beq_eq_false_iff_ne]
    refine ⟨fun h => ?_, h7f⟩
    have := hu.1.1
    simp only [UInt8.le_def, UInt8.lt_def, BitVec.le_def, BitVec.lt_def] at *
    omega

theorem isControl_escapeJsonString (s : Bytes) : ∀ b ∈ escapeJsonString s, isControl b = false := by
  induction s with
  | nil => simp [escapeJsonString]
  | cons c s ih =>
    simp only [escapeJsonString, List.mem_append]
    rintro b (hb | hb)
    exacts [isControl_escapeChar c b hb, ih b hb]

theorem isControl_levelName (levels : LogLevels) (level : Nat) :
    ∀ b ∈ levelName levels level, isControl b = false := by
  unfold levelName; repeat' split
  all_goals decide

theorem isControl_decimal (n : Nat) : ∀ b ∈ decimal n, isControl b = false := fun b hb => by
  have := decimal_all_digits n b hb
  simp only [isDigit, Bool.and_eq_true, decide_eq_true_eq] at this
  simp only [isControl, Bool.or_eq_false_iff, decide_eq_false_iff_not, beq_eq_false_iff_ne]
  refine ⟨fun h => ?_, by rintro rfl; exact absurd this.2 (by decide)⟩
  simp only [UInt8.le_def, UInt8.lt_def, BitVec.le_def, BitVec.lt_def, UInt8.toBitVec_ofNat,
    BitVec.toNat_ofNat] at *
  omega

/-- A string between quotes has the string's control bytes. -/
theorem isControl_quoted {s : Bytes} (hs : ∀ b ∈ s, isControl b = false) :
    ∀ b ∈ 0x22 :: s ++ [0x22], isControl b = false := by
  simp only [List.cons_append, List.mem_cons, List.mem_append, List.mem_singleton,
    List.not_mem_nil, or_false]
  rintro b (rfl | hb | rfl)
  exacts [rfl, hs b hb, rfl]

/-- Every member of a record, the timestamp's included, is free of control
bytes when the timestamp is. -/
theorem fields_control_free (levels : LogLevels) (message : LogMessage) {timestamp : Bytes}
    (hts : ∀ b ∈ timestamp, isControl b = false) :
    ∀ f ∈ timestampField timestamp :: messageFields levels message,
      (∀ b ∈ f.key, isControl b = false) ∧ ∀ b ∈ f.text, isControl b = false := by
  have hkeys : ∀ k ∈ ascii "timestamp" :: (messageFields levels message).map Field.key,
      ∀ b ∈ k, isControl b = false := by
    rw [messageFields_keys]; decide
  intro f hf
  refine ⟨hkeys f.key ?_, ?_⟩
  · rcases List.mem_cons.1 hf with rfl | hf
    exacts [List.mem_cons_self _ _, List.mem_cons_of_mem _ (List.mem_map_of_mem _ hf)]
  · simp only [messageFields, List.mem_cons, List.not_mem_nil, or_false] at hf
    rcases hf with rfl | rfl | rfl | rfl | rfl | rfl | rfl | rfl
    · exact isControl_quoted hts
    · exact isControl_quoted (isControl_levelName _ _)
    · exact isControl_quoted (isControl_escapeJsonString _)
    · exact isControl_quoted (isControl_escapeJsonString _)
    · exact isControl_decimal _
    · exact isControl_quoted (isControl_escapeJsonString _)
    · exact isControl_decimal _
    · exact isControl_quoted (isControl_escapeJsonString _)

/-- **The only control bytes of a record are the layout's line feeds.**  For
every message, whatever bytes its category name, file, function and text hold,
and every timestamp without control bytes, each control byte in the output of
`formatMessage`, in either layout, is a line feed. -/
theorem formatMessage_control_free (formatter : JSONLogFormatter) (levels : LogLevels)
    (formatTimestamp : LogMessage → Bytes) (message : LogMessage)
    (hts : ∀ b ∈ formatTimestamp message, isControl b = false) :
    ∀ b ∈ formatter.formatMessage levels formatTimestamp message, isControl b = true → b = 0x0a := by
  intro b hb hcb
  by_contra hne
  have hout {s : Bytes} (hs : ∀ c ∈ s, isControl c = false) : b ∉ s := fun h => by
    rw [hs b h] at hcb; cases hcb
  have hpunct : b ≠ 0x7b ∧ b ≠ 0x7d ∧ b ≠ 0x22 ∧ b ≠ 0x3a ∧ b ≠ 0x2c := by
    refine ⟨?_, ?_, ?_, ?_, ?_⟩ <;> rintro rfl <;> exact absurd hcb (by decide)
  have hws (s : String) (hs : ∀ c ∈ ascii s, c = 0x0a ∨ c = 0x20) : b ∉ ascii s := fun h => by
    rcases hs b h with rfl | rfl
    exacts [hne rfl, absurd hcb (by decide)]
  have hf := fun g hg => And.intro (hout (fields_control_free levels message hts g hg).1)
    (hout (fields_control_free levels message hts g hg).2)
  obtain ⟨prettyPrint⟩ := formatter
  cases prettyPrint
  · rw [formatMessage_compact] at hb
    rcases List.mem_append.1 hb with hb | hb
    · exact not_mem_objectText hpunct (List.not_mem_nil _) (List.not_mem_nil _)
        (List.not_mem_nil _) hf hb
    · exact hne (List.mem_singleton.1 hb)
  · rw [formatMessage_pretty] at hb
    rcases List.mem_append.1 hb with hb | hb
    · exact not_mem_objectText hpunct (hws _ (by decide)) (hws _ (by decide)) (hws _ (by decide))
        hf hb
    · exact hne (List.mem_singleton.1 hb)

theorem sampleRecord_control_free :
    (∀ b ∈ sampleTimestamp sampleMessage, isControl b = false) ∧
    ∀ b ∈ (⟨true⟩ : JSONLogFormatter).formatMessage sampleLevels sampleTimestamp sampleMessage,
      isControl b = true → b = 0x0a :=
  ⟨by decide,
    formatMessage_control_free ⟨true⟩ sampleLevels sampleTimestamp sampleMessage (by decide)⟩

end JSONLogFormatter

end Folly
