import NetworkLogging.Writer.Lifecycle

/-! # Parsing the handler's configuration

`NetworkHandlerFactory` turns the settings of a `network` log handler into the
arguments of `NetworkLogWriter`'s constructor.  Two of its settings are numbers
with a unit, `max_buffer_size` ("1MB") and `reconnect_interval` ("5s"), and their
parsers share a first half, `splitNumber`: the `while` loop that measures the run
of digits at the front, the test that the run is neither empty nor the whole
string, and `folly::to<uint64_t>` on it.  Every string thus splits into its run of
digits and the rest (`splitNumber_append`), and each parser is characterised by
what it does with the two parts.

`parseMaxBufferSize` returns the `size_t` product of the number and the unit's
multiplier, so it accepts a zero product and wraps a large one
(`parseMaxBufferSize_accepts`, `parseMaxBufferSize_zero_and_wrap`).
`parseReconnectInterval` builds a `std::chrono` duration from the number and
converts it to milliseconds; it accepts a zero interval, and every interval that
fits in the signed count comes out exact (`parseReconnectInterval_accepts`,
`parseReconnectInterval_zero_and_negative`).

The port goes through `folly::to<uint16_t>` as the user wrote it, so it may have
whitespace before and after its digits (`toUnsigned_eq_ok`).

`createHandler` reads `host` and `port`, which are required, and `protocol`,
`max_buffer_size` and `reconnect_interval`, which have defaults, and returns the
writer's arguments with the other settings.  `installWriter` is the rest of the
source function: `StandardLogHandlerFactory` builds a handler from those
settings, the handler must be a `StandardLogHandler`, and the writer is
installed in it.  `StandardLogHandlerFactory` is outside `src`, so it is a
parameter, and `createHandler_settings` holds for every one.

`uint64_t` and `size_t` are `Fin (2 ^ 64)`; the `int64_t` count of
`std::chrono::milliseconds` is an integer reduced to two's complement by `int64`.
-/
namespace Folly.NetworkHandlerFactory
open NetworkLogWriter (Protocol)

/-- What `createHandler` and its parsers throw: `std::invalid_argument` or
`std::runtime_error` with its message, or the `folly::ConversionError` that
`folly::to` throws for a string it cannot convert. -/
inductive ParseError
  | invalidArgument (message : Bytes)
  | runtimeError (message : Bytes)
  | conversionError
  deriving DecidableEq, Repr

/-- The `'{}'` of the source's format strings around `s`. -/
def quoted (s : Bytes) : Bytes := 0x27 :: s ++ [0x27]

/-- `std::isspace` in the C locale: space, `\t`, `\n`, `\v`, `\f` and `\r`. -/
def isSpace (c : UInt8) : Bool := c == 0x20 || (0x09 ≤ c && c ≤ 0x0d)

/-- `digits_to<uintW_t>`, the conversion inside `folly::to`: the value of a
non-empty run of digits, if it is below `2 ^ W`. -/
def digitsTo (w : Nat) (s : Bytes) : Except ParseError (Fin (2 ^ w)) :=
  if h : s ≠ [] ∧ s.all isDigit = true ∧ decimalValue s < 2 ^ w then .ok ⟨decimalValue s, h.2.2⟩
  else .error .conversionError

/-- `folly::to<uintW_t>` on a string: `str_to_integral` skips leading whitespace
and converts the run of digits after it, and the check for trailing characters
allows only whitespace after the run. -/
def toUnsigned (w : Nat) (s : Bytes) : Except ParseError (Fin (2 ^ w)) :=
  let t := s.dropWhile isSpace
  if (t.dropWhile isDigit).all isSpace then digitsTo w (t.takeWhile isDigit)
  else .error .conversionError

/-- `folly::to<uint64_t>`. -/
def toUInt64 : Bytes → Except ParseError (Fin (2 ^ 64)) := toUnsigned 64

/-- `folly::to<uint16_t>`. -/
def toUInt16 : Bytes → Except ParseError (Fin (2 ^ 16)) := toUnsigned 16

/-- The first half of `parseMaxBufferSize` and `parseReconnectInterval`: `pos`
after the digit loop, the test of `pos`, which throws `invalid`, then the number
and the unit. -/
def splitNumber (invalid : Bytes) (s : Bytes) : Except ParseError (Fin (2 ^ 64) × Bytes) := do
  let pos := (s.takeWhile isDigit).length
  if pos = 0 ∨ pos = s.length then throw (.invalidArgument invalid)
  let number ← toUInt64 (s.take pos)
  pure (number, s.drop pos)

/-- The `multiplier` of each unit `parseMaxBufferSize` knows. -/
def sizeMultiplier (unitStr : Bytes) : Option (Fin (2 ^ 64)) :=
  if unitStr = ascii "B" then some 1
  else if unitStr = ascii "KB" then some 1024
  else if unitStr = ascii "MB" then some (1024 * 1024)
  else if unitStr = ascii "GB" then some (1024 * 1024 * 1024)
  else none

/-- `NetworkHandlerFactory::parseMaxBufferSize`. -/
def parseMaxBufferSize (sizeStr : Bytes) : Except ParseError (Fin (2 ^ 64)) := do
  let (number, unitStr) ← splitNumber (ascii "invalid max buffer size " ++ quoted sizeStr) sizeStr
  match sizeMultiplier unitStr with
  | some multiplier => pure (number * multiplier)
  | none =>
    throw (.invalidArgument (ascii "invalid size unit " ++ quoted unitStr ++ ascii " in max buffer size"))

/-- An integer converted to `int64_t`: two's complement. -/
def int64 (x : Int) : Int := (x + 2 ^ 63) % 2 ^ 64 - 2 ^ 63

/-- A `std::chrono` duration of `number` periods of `k` milliseconds each, built
from a `uint64_t` and converted to `std::chrono::milliseconds`. -/
def millisecondsOf (k : Nat) (number : Fin (2 ^ 64)) : Int := int64 (int64 number * k)

/-- `NetworkHandlerFactory::parseReconnectInterval`: the count of the returned
`std::chrono::milliseconds`. -/
def parseReconnectInterval (intervalStr : Bytes) : Except ParseError Int := do
  let (number, unitStr) ←
    splitNumber (ascii "invalid reconnect interval " ++ quoted intervalStr) intervalStr
  if unitStr = ascii "ms" then pure (int64 number)
  else if unitStr = ascii "s" then pure (millisecondsOf 1000 number)
  else if unitStr = ascii "m" then pure (millisecondsOf 60000 number)
  else if unitStr = ascii "h" then pure (millisecondsOf 3600000 number)
  else
    throw (.invalidArgument (ascii "invalid time unit " ++ quoted unitStr ++ ascii " in reconnect interval"))

/-- `folly::toLowerAscii`. -/
def toLowerAscii (s : Bytes) : Bytes := s.map fun c => if 0x41 ≤ c && c ≤ 0x5a then c + 0x20 else c

/-- `NetworkHandlerFactory::parseProtocol`. -/
def parseProtocol (protocolStr : Bytes) : Except ParseError Protocol :=
  let protocolLower := toLowerAscii protocolStr
  if protocolLower = ascii "tcp" then .ok .TCP
  else if protocolLower = ascii "udp" then .ok .UDP
  else .error (.invalidArgument (ascii "unknown protocol " ++ quoted protocolStr ++
    ascii ", expected " ++ quoted (ascii "tcp") ++ ascii " or " ++ quoted (ascii "udp")))

/-- `ConfigMap`, the `std::unordered_map` of a handler's settings: each name at
most once. -/
@[ext] structure ConfigMap where
  entries : List (Bytes × Bytes)
  nodup : (entries.map Prod.fst).Nodup

namespace ConfigMap

/-- `config.find(key)`, as the value it points to. -/
def find (config : ConfigMap) (key : Bytes) : Option Bytes := config.entries.lookup key

/-- `config.erase(key)`. -/
def erase (config : ConfigMap) (key : Bytes) : ConfigMap :=
  ⟨config.entries.filter (fun e => e.1 != key), config.nodup.sublist ((List.filter_sublist _).map _)⟩

/-- The value of an optional setting: its parse when it is set, the default
otherwise. -/
def setting {α : Type} (config : ConfigMap) (key : Bytes) (parse : Bytes → Except ParseError α)
    (default : α) : Except ParseError α :=
  match config.find key with
  | some value => parse value
  | none => .ok default

end ConfigMap

/-- What `createHandler` throws for a missing required setting. -/
def missingParameter (key : Bytes) : ParseError :=
  .invalidArgument (ascii "network handler requires " ++ quoted key ++ ascii " parameter")

/-- The arguments `createHandler` passes to `NetworkLogWriter`'s constructor. -/
structure WriterArgs where
  host : Bytes
  port : Fin (2 ^ 16)
  protocol : Protocol
  maxBufferSize : Fin (2 ^ 64)
  reconnectInterval : Int
  deriving DecidableEq, Repr

/-- One optional setting of `createHandler`: parsed and erased when it is set,
the default otherwise. -/
def optionalSetting {α : Type} (key : Bytes) (parse : Bytes → Except ParseError α) (default : α)
    (config : ConfigMap) : Except ParseError (α × ConfigMap) :=
  match config.find key with
  | some value => (fun v => (v, config.erase key)) <$> parse value
  | none => .ok (default, config)

/-- `NetworkHandlerFactory::createHandler` up to `StandardLogHandlerFactory`: the
arguments of the writer, and the settings left for the standard handler. -/
def createHandler (config : ConfigMap) : Except ParseError (WriterArgs × ConfigMap) :=
  match config.find (ascii "host") with
  | none => throw (missingParameter (ascii "host"))
  | some host =>
    let config := config.erase (ascii "host")
    match config.find (ascii "port") with
    | none => throw (missingParameter (ascii "port"))
    | some portStr => do
      let port ← toUInt16 portStr
      let config := config.erase (ascii "port")
      let (protocol, config) ← optionalSetting (ascii "protocol") parseProtocol .TCP config
      let (maxBufferSize, config) ←
        optionalSetting (ascii "max_buffer_size") parseMaxBufferSize (1024 * 1024) config
      let (reconnectInterval, config) ←
        optionalSetting (ascii "reconnect_interval") parseReconnectInterval 5000 config
      pure (⟨host, port, protocol, maxBufferSize, reconnectInterval⟩, config)

/-- What `createHandler` sees of the handler `StandardLogHandlerFactory` builds:
whether `dynamic_cast<StandardLogHandler*>` succeeds on it, and the writer
`setWriter` has installed in it from this factory, if any. -/
structure LogHandler where
  standard : Bool
  writer : Option WriterArgs
  deriving DecidableEq, Repr

/-- The rest of `NetworkHandlerFactory::createHandler`:
`StandardLogHandlerFactory::createHandler` on the settings left over, then the
`dynamic_cast` to `StandardLogHandler` and `setWriter` with the writer built from
the arguments.  The whole function is
`createHandler config >>= installWriter standardFactory`. -/
def installWriter (standardFactory : ConfigMap → Except ParseError LogHandler)
    (built : WriterArgs × ConfigMap) : Except ParseError LogHandler := do
  let handler ← standardFactory built.2
  if handler.standard then pure { handler with writer := some built.1 }
  else throw (.runtimeError (ascii "expected StandardLogHandler"))

/-! ## `folly::to` -/

theorem isDigit_eq_false_of_isSpace {c : UInt8} (h : isSpace c = true) : isDigit c = false := by
  simp only [isSpace, Bool.or_eq_true, beq_iff_eq, Bool.and_eq_true, decide_eq_true_eq] at h
  rcases h with rfl | ⟨-, h⟩
  · rfl
  · simp only [isDigit, Bool.and_eq_false_iff, decide_eq_false_iff_not]
    refine .inl fun h' => ?_
    simp only [UInt8.le_def, BitVec.le_def] at h h'
    have : (0x0d : UInt8).toBitVec.toNat < (0x30 : UInt8).toBitVec.toNat := by decide
    omega

theorem isSpace_eq_false_of_isDigit {c : UInt8} (h : isDigit c = true) : isSpace c = false :=
  Bool.eq_false_iff.2 fun hs => by rw [isDigit_eq_false_of_isSpace hs] at h; cases h

/-- No digit follows a run of whitespace. -/
theorem startsWithDigit_of_all_isSpace {b : Bytes} (hb : b.all isSpace = true) :
    startsWithDigit b = false := by
  cases b with
  | nil => rfl
  | cons c rest =>
    simp only [List.all_cons, Bool.and_eq_true] at hb
    exact isDigit_eq_false_of_isSpace hb.1

/-- A run of digits has no whitespace in front of it. -/
theorem dropWhile_isSpace_of_digits {d : Bytes} (h1 : d ≠ []) (hd : d.all isDigit = true)
    (b : Bytes) : (d ++ b).dropWhile isSpace = d ++ b := by
  obtain ⟨c, rest, rfl⟩ := List.exists_cons_of_ne_nil h1
  simp only [List.all_cons, Bool.and_eq_true] at hd
  simp [List.dropWhile_cons, isSpace_eq_false_of_isDigit hd.1]

theorem digitsTo_eq_ok {w : Nat} {d : Bytes} {n : Fin (2 ^ w)} :
    digitsTo w d = .ok n ↔ d ≠ [] ∧ d.all isDigit = true ∧ n.val = decimalValue d := by
  simp only [digitsTo]
  split_ifs with h
  · refine ⟨fun he => ?_, fun ⟨_, _, hv⟩ => ?_⟩
    · cases he; exact ⟨h.1, h.2.1, rfl⟩
    · exact congrArg Except.ok (Fin.ext hv.symm)
  · exact ⟨fun he => (nomatch he), fun ⟨h1, h2, hv⟩ => absurd ⟨h1, h2, hv ▸ n.isLt⟩ h⟩

/-- **What `folly::to<uintW_t>` accepts**: a non-empty run of digits whose value
is below `2 ^ W`, with whitespace before and after it at most. -/
theorem toUnsigned_eq_ok {w : Nat} {s : Bytes} {n : Fin (2 ^ w)} :
    toUnsigned w s = .ok n ↔ ∃ a d b, s = a ++ d ++ b ∧ a.all isSpace = true ∧ d ≠ [] ∧
      d.all isDigit = true ∧ b.all isSpace = true ∧ n.val = decimalValue d := by
  constructor
  · intro h
    simp only [toUnsigned] at h
    split at h
    · rename_i hb
      obtain ⟨h1, h2, hv⟩ := digitsTo_eq_ok.mp h
      refine ⟨s.takeWhile isSpace, (s.dropWhile isSpace).takeWhile isDigit,
        (s.dropWhile isSpace).dropWhile isDigit, ?_, ?_, h1, h2, hb, hv⟩
      · rw [List.append_assoc, List.takeWhile_append_dropWhile, List.takeWhile_append_dropWhile]
      · exact List.all_eq_true.2 fun x hx => List.mem_takeWhile_imp hx
    · cases h
  · rintro ⟨a, d, b, rfl, ha, h1, hd, hb, hv⟩
    have hb0 := startsWithDigit_of_all_isSpace hb
    have hrest : (d ++ b).dropWhile isDigit = b := by
      have := List.takeWhile_append_dropWhile isDigit (d ++ b)
      rw [takeWhile_isDigit_append hd hb0] at this
      exact List.append_cancel_left this
    simp only [toUnsigned, List.append_assoc,
      List.dropWhile_append_of_pos (by simpa using ha), dropWhile_isSpace_of_digits h1 hd, hrest, hb,
      if_true, takeWhile_isDigit_append hd hb0]
    exact digitsTo_eq_ok.mpr ⟨h1, hd, hv⟩

example : toUInt16 (ascii " 80\t") = .ok 80 ∧ toUInt16 (ascii "8 0") = .error .conversionError :=
  ⟨rfl, rfl⟩

/-- On a run of digits, `folly::to` is the conversion alone. -/
theorem toUnsigned_of_digits {w : Nat} {d : Bytes} (hd : d.all isDigit = true) :
    toUnsigned w d = digitsTo w d := by
  rcases eq_or_ne d [] with rfl | h1
  · rfl
  have hs := dropWhile_isSpace_of_digits h1 hd []
  rw [List.append_nil] at hs
  simp only [toUnsigned, hs, List.takeWhile_eq_self_iff.2 (by simpa using hd),
    List.dropWhile_eq_nil_iff.2 (by simpa using hd), List.all_nil, if_true]

theorem toUnsigned_error {w : Nat} {s : Bytes} {e : ParseError} (h : toUnsigned w s = .error e) :
    e = .conversionError := by
  simp only [toUnsigned, digitsTo] at h
  split_ifs at h <;> cases h <;> rfl

/-! ## The split into number and unit -/

/-- Every string is a run of digits followed by a part that does not start with
one. -/
theorem exists_digits_append (s : Bytes) :
    ∃ d u, s = d ++ u ∧ d.all isDigit = true ∧ startsWithDigit u = false := by
  refine ⟨s.takeWhile isDigit, s.dropWhile isDigit, (List.takeWhile_append_dropWhile _ _).symm,
    by simp, ?_⟩
  cases hu : s.dropWhile isDigit with
  | nil => rfl
  | cons c rest =>
    have := List.head_dropWhile_not isDigit s (by simp [hu])
    simpa [hu, startsWithDigit] using this

/-- **What `splitNumber` does with a run of digits `d` and the rest `u`.** -/
theorem splitNumber_append (invalid : Bytes) {d u : Bytes} (hd : d.all isDigit = true)
    (hu : startsWithDigit u = false) :
    splitNumber invalid (d ++ u) =
      if d = [] ∨ u = [] then .error (.invalidArgument invalid)
      else (fun number => (number, u)) <$> toUInt64 d := by
  have hlen : ((d ++ u).takeWhile isDigit).length = d.length := by
    rw [takeWhile_isDigit_append hd hu]
  simp only [splitNumber, hlen, List.length_eq_zero, List.length_append, self_eq_add_right,
    List.take_left' rfl, List.drop_left' rfl]
  split <;> cases toUInt64 d <;> rfl

theorem toUInt64_eq_ok {d : Bytes} (hd : d.all isDigit = true) {number : Fin (2 ^ 64)} :
    toUInt64 d = .ok number ↔ d ≠ [] ∧ d.all isDigit = true ∧ number.val = decimalValue d := by
  rw [toUInt64, toUnsigned_of_digits hd]
  exact digitsTo_eq_ok

/-- What `splitNumber` returns for a run of digits `d` followed by `u`. -/
theorem splitNumber_eq_ok (invalid : Bytes) {d u : Bytes} (hd : d.all isDigit = true)
    (hu : startsWithDigit u = false) {number : Fin (2 ^ 64)} {rest : Bytes} :
    splitNumber invalid (d ++ u) = .ok (number, rest) ↔
      d ≠ [] ∧ u ≠ [] ∧ number.val = decimalValue d ∧ rest = u := by
  rw [splitNumber_append invalid hd hu]
  split
  · rename_i h
    exact ⟨fun he => (nomatch he), fun ⟨h1, h2, _⟩ => absurd h (by simp [h1, h2])⟩
  · rename_i h
    simp only [not_or] at h
    cases hn : toUInt64 d with
    | error e =>
      exact ⟨fun he => (nomatch he), fun ⟨h1, _, hv, _⟩ => nomatch hn.symm.trans
        ((toUInt64_eq_ok hd).mpr ⟨h1, hd, hv⟩)⟩
    | ok n =>
      obtain ⟨-, -, hv⟩ := (toUInt64_eq_ok hd).mp hn
      simp only [Functor.map, Except.map, Except.ok.injEq, Prod.mk.injEq, h.1, h.2, ne_eq,
        not_false_eq_true, true_and, ← hv, Fin.val_inj, eq_comm]

theorem splitNumber_digits (invalid : Bytes) {d u : Bytes} (h1 : d ≠ []) (hd : d.all isDigit = true)
    (hu0 : u ≠ []) (hu : startsWithDigit u = false) (hlt : decimalValue d < 2 ^ 64) :
    splitNumber invalid (d ++ u) = .ok (⟨decimalValue d, hlt⟩, u) :=
  (splitNumber_eq_ok invalid hd hu).mpr ⟨h1, hu0, rfl, rfl⟩

/-! ## `parseMaxBufferSize` -/

/-- The units of `parseMaxBufferSize` and their multipliers: `B`, `KB`, `MB` and
`GB` are `1`, `1024`, `1024 ^ 2` and `1024 ^ 3` bytes. -/
theorem sizeMultiplier_eq_some {u : Bytes} {m : Fin (2 ^ 64)} :
    sizeMultiplier u = some m ↔ (u, m) ∈
      [(ascii "B", 1), (ascii "KB", 1024), (ascii "MB", 1024 * 1024),
        (ascii "GB", 1024 * 1024 * 1024)] := by
  constructor
  · intro h
    unfold sizeMultiplier at h
    split_ifs at h <;> subst_vars <;> cases h <;> decide
  · simp only [List.mem_cons, Prod.mk.injEq, List.mem_nil_iff, or_false]
    rintro (⟨rfl, rfl⟩ | ⟨rfl, rfl⟩ | ⟨rfl, rfl⟩ | ⟨rfl, rfl⟩) <;> rfl

theorem sizeMultiplier_startsWithDigit {u : Bytes} {m : Fin (2 ^ 64)}
    (h : sizeMultiplier u = some m) : u ≠ [] ∧ startsWithDigit u = false := by
  have hu := sizeMultiplier_eq_some.1 h
  simp only [List.mem_cons, Prod.mk.injEq, List.mem_nil_iff, or_false] at hu
  rcases hu with ⟨rfl, -⟩ | ⟨rfl, -⟩ | ⟨rfl, -⟩ | ⟨rfl, -⟩ <;> decide

/-- The unit decides the size: `number` times its unit's multiplier. -/
theorem parseMaxBufferSize_of_split {s : Bytes} {number : Fin (2 ^ 64)} {unitStr : Bytes}
    (h : splitNumber (ascii "invalid max buffer size " ++ quoted s) s = .ok (number, unitStr))
    (v : Fin (2 ^ 64)) :
    parseMaxBufferSize s = .ok v ↔ ∃ m, sizeMultiplier unitStr = some m ∧ v = number * m := by
  simp only [parseMaxBufferSize, h, bind, Except.bind]
  cases sizeMultiplier unitStr <;>
    simp [pure, Except.pure, throw, throwThe, MonadExceptOf.throw, eq_comm]

/-- **What `parseMaxBufferSize` accepts.**  It returns exactly for a non-empty
run of digits whose value is below `2 ^ 64`, followed by one of the units `B`,
`KB`, `MB` and `GB`; the value is the product of the number and the unit's
multiplier modulo `2 ^ 64`.  Every other string is rejected with an exception. -/
theorem parseMaxBufferSize_accepts (s : Bytes) (v : Fin (2 ^ 64)) :
    parseMaxBufferSize s = .ok v ↔
      ∃ d u m, s = d ++ u ∧ d ≠ [] ∧ d.all isDigit = true ∧ decimalValue d < 2 ^ 64 ∧
        sizeMultiplier u = some m ∧ v.val = decimalValue d * m.val % 2 ^ 64 := by
  constructor
  · obtain ⟨d, u, rfl, hd, hu⟩ := exists_digits_append s
    intro h
    cases hsplit : splitNumber (ascii "invalid max buffer size " ++ quoted (d ++ u)) (d ++ u) with
    | error e => simp [parseMaxBufferSize, hsplit, bind, Except.bind] at h
    | ok r =>
      obtain ⟨number, u'⟩ := r
      obtain ⟨m, hm, rfl⟩ := (parseMaxBufferSize_of_split hsplit v).mp h
      obtain ⟨h1, -, hv, rfl⟩ := (splitNumber_eq_ok _ hd hu).mp hsplit
      exact ⟨d, u', m, rfl, h1, hd, hv ▸ number.isLt, hm, by rw [Fin.val_mul, hv]⟩
  · rintro ⟨d, u, m, rfl, h1, h2, hlt, hm, hv⟩
    obtain ⟨hu0, hu⟩ := sizeMultiplier_startsWithDigit hm
    exact (parseMaxBufferSize_of_split (splitNumber_digits _ h1 h2 hu0 hu hlt) v).mpr
      ⟨m, hm, Fin.ext (by rw [Fin.val_mul, hv])⟩

/-- A zero product is accepted, and so is one that wraps to zero:
`17179869184` gigabytes are `2 ^ 64` bytes. -/
theorem parseMaxBufferSize_zero_and_wrap :
    parseMaxBufferSize (ascii "0B") = .ok 0 ∧ parseMaxBufferSize (ascii "17179869184GB") = .ok 0 :=
  ⟨rfl, rfl⟩

/-! ## `parseReconnectInterval` -/

theorem bind_eq_ok {α β : Type} {x : Except ParseError α} {f : α → Except ParseError β} {b : β} :
    x >>= f = .ok b ↔ ∃ a, x = .ok a ∧ f a = .ok b := by
  cases x <;> simp [bind, Except.bind]

theorem bind_eq_error {α β : Type} {x : Except ParseError α} {f : α → Except ParseError β}
    {e : ParseError} : x >>= f = .error e ↔ x = .error e ∨ ∃ a, x = .ok a ∧ f a = .error e := by
  cases x <;> simp [bind, Except.bind]

namespace ConfigMap

theorem lookup_filter_ne (l : List (Bytes × Bytes)) {k k' : Bytes} (h : k ≠ k') :
    (l.filter fun e => e.1 != k').lookup k = l.lookup k := by
  induction l with
  | nil => rfl
  | cons e l ih =>
    obtain ⟨a, b⟩ := e
    by_cases ha : a = k'
    · subst ha; simp [List.lookup_cons, ih, beq_false_of_ne h]
    · simp [List.filter_cons, List.lookup_cons, ih, ha]

theorem find_erase_of_ne (config : ConfigMap) {k k' : Bytes} (h : k ≠ k') :
    (config.erase k').find k = config.find k := lookup_filter_ne _ h

theorem erase_of_find_none {config : ConfigMap} {k : Bytes} (h : config.find k = none) :
    config.erase k = config := by
  refine ConfigMap.ext (List.filter_eq_self.mpr fun e he => ?_)
  have := List.lookup_eq_none_iff.mp h e he
  simp only [bne_iff_ne, ne_eq] at this ⊢
  exact fun h' => this h'.symm

theorem setting_erase_of_ne {α : Type} (config : ConfigMap) {k k' : Bytes} (h : k ≠ k')
    (parse : Bytes → Except ParseError α) (default : α) :
    (config.erase k').setting k parse default = config.setting k parse default := by
  simp only [setting, find_erase_of_ne _ h]

end ConfigMap
open ConfigMap

theorem optionalSetting_eq_ok {α : Type} {key : Bytes} {parse : Bytes → Except ParseError α}
    {default : α} {config c : ConfigMap} {v : α} :
    optionalSetting key parse default config = .ok (v, c) ↔
      config.setting key parse default = .ok v ∧ c = config.erase key := by
  unfold optionalSetting setting
  cases hf : config.find key with
  | none => simp [erase_of_find_none hf, eq_comm]
  | some value => cases hv : parse value <;> simp [Functor.map, Except.map, hv, eq_comm]

theorem optionalSetting_eq_error {α : Type} {key : Bytes} {parse : Bytes → Except ParseError α}
    {default : α} {config : ConfigMap} {e : ParseError} :
    optionalSetting key parse default config = .error e ↔
      config.setting key parse default = .error e := by
  unfold optionalSetting setting
  cases config.find key with
  | none => simp
  | some value => cases hv : parse value <;> simp [Functor.map, Except.map, hv]

/-- The settings `createHandler` consumes. -/
def networkKeys : List Bytes :=
  [ascii "host", ascii "port", ascii "protocol", ascii "max_buffer_size", ascii "reconnect_interval"]

/-- What is left once the five settings are erased: every other setting. -/
theorem createHandler_rest (config : ConfigMap) :
    (((((config.erase (ascii "host")).erase (ascii "port")).erase (ascii "protocol")).erase
      (ascii "max_buffer_size")).erase (ascii "reconnect_interval")).entries =
      config.entries.filter (fun e => e.1 ∉ networkKeys) := by
  simp only [erase, List.filter_filter]
  refine List.filter_congr fun e _ => ?_
  rw [Bool.eq_iff_iff]; simp [networkKeys]; tauto

theorem createHandler_eq_ok (config : ConfigMap) (args : WriterArgs) (rest : ConfigMap) :
    createHandler config = .ok (args, rest) ↔
      config.find (ascii "host") = some args.host ∧
      (∃ portStr, config.find (ascii "port") = some portStr ∧ toUInt16 portStr = .ok args.port) ∧
      config.setting (ascii "protocol") parseProtocol .TCP = .ok args.protocol ∧
      config.setting (ascii "max_buffer_size") parseMaxBufferSize (1024 * 1024) =
        .ok args.maxBufferSize ∧
      config.setting (ascii "reconnect_interval") parseReconnectInterval 5000 =
        .ok args.reconnectInterval ∧
      rest.entries = config.entries.filter (fun e => e.1 ∉ networkKeys) := by
  obtain ⟨h0, p0, pr0, m0, r0⟩ := args
  unfold createHandler
  cases hh : config.find (ascii "host") with
  | none => simp [throw, throwThe, MonadExceptOf.throw]
  | some host =>
    simp only [find_erase_of_ne _ (show ascii "port" ≠ ascii "host" by decide)]
    cases hp : config.find (ascii "port") with
    | none => simp [throw, throwThe, MonadExceptOf.throw]
    | some portStr =>
      simp (disch := decide) only [bind_eq_ok, optionalSetting_eq_ok, Prod.exists, and_assoc,
        exists_eq_left, setting_erase_of_ne, pure, Except.pure, Except.ok.injEq, Prod.mk.injEq,
        exists_and_left, WriterArgs.mk.injEq, exists_eq_left', Option.some.injEq]
      constructor
      · rintro ⟨a, ha, a1, h1, a2, h2, a3, h3, rfl, rfl, rfl, rfl, rfl, rfl⟩
        exact ⟨rfl, ha, h1, h2, h3, createHandler_rest config⟩
      · rintro ⟨rfl, hs, h1, h2, h3, hr⟩
        exact ⟨p0, hs, pr0, h1, m0, h2, r0, h3, rfl, rfl, rfl, rfl, rfl,
          ConfigMap.ext ((createHandler_rest config).trans hr.symm)⟩

theorem createHandler_error (config : ConfigMap) (e : ParseError) :
    createHandler config = .error e →
      (config.find (ascii "host") = none ∧ e = missingParameter (ascii "host")) ∨
      (config.find (ascii "port") = none ∧ e = missingParameter (ascii "port")) ∨
      (∃ portStr, config.find (ascii "port") = some portStr ∧ toUInt16 portStr = .error e) ∨
      config.setting (ascii "protocol") parseProtocol .TCP = .error e ∨
      config.setting (ascii "max_buffer_size") parseMaxBufferSize (1024 * 1024) = .error e ∨
      config.setting (ascii "reconnect_interval") parseReconnectInterval 5000 = .error e := by
  unfold createHandler
  cases hh : config.find (ascii "host") with
  | none => intro h; cases h; exact .inl ⟨rfl, rfl⟩
  | some host =>
    simp only [find_erase_of_ne _ (show ascii "port" ≠ ascii "host" by decide)]
    cases hp : config.find (ascii "port") with
    | none => intro h; cases h; exact .inr (.inl ⟨rfl, rfl⟩)
    | some portStr =>
      simp (disch := decide) only [bind_eq_error, bind_eq_ok, optionalSetting_eq_error,
        optionalSetting_eq_ok, Prod.exists, and_assoc, exists_eq_left, setting_erase_of_ne, pure,
        Except.pure, exists_and_left]
      rintro (h | ⟨-, -, h | ⟨-, -, h | ⟨-, -, h | ⟨-, -, ⟨⟩⟩⟩⟩⟩)
      · exact .inr (.inr (.inl ⟨_, rfl, h⟩))
      · exact .inr (.inr (.inr (.inl h)))
      · exact .inr (.inr (.inr (.inr (.inl h))))
      · exact .inr (.inr (.inr (.inr (.inr h))))

/-- What the rest of the function does with the writer's arguments and the
settings left over. -/
theorem installWriter_eq_ok {standardFactory : ConfigMap → Except ParseError LogHandler}
    {args : WriterArgs} {rest : ConfigMap} {handler : LogHandler} :
    installWriter standardFactory (args, rest) = .ok handler ↔
      ∃ h, standardFactory rest = .ok h ∧ h.standard = true ∧
        handler = { h with writer := some args } := by
  simp only [installWriter, bind_eq_ok]
  refine exists_congr fun h => and_congr_right fun _ => ?_
  cases h.standard
  · simp only [Bool.false_eq_true, ↓reduceIte, throw, throwThe, MonadExceptOf.throw,
      reduceCtorEq, false_and]
  · simp only [↓reduceIte, pure, Except.pure, Except.ok.injEq, true_and]
    exact eq_comm

theorem installWriter_eq_error {standardFactory : ConfigMap → Except ParseError LogHandler}
    {args : WriterArgs} {rest : ConfigMap} {e : ParseError} :
    installWriter standardFactory (args, rest) = .error e ↔
      standardFactory rest = .error e ∨ ∃ h, standardFactory rest = .ok h ∧ h.standard = false ∧
        e = .runtimeError (ascii "expected StandardLogHandler") := by
  simp only [installWriter, bind_eq_error]
  refine or_congr_right (exists_congr fun h => and_congr_right fun _ => ?_)
  cases h.standard
  · simp only [Bool.false_eq_true, ↓reduceIte, throw, throwThe, MonadExceptOf.throw,
      Except.error.injEq, true_and]
    exact eq_comm
  · simp only [↓reduceIte, pure, Except.pure, reduceCtorEq, Bool.true_eq_false, false_and]

/-- **What `createHandler` accepts and what it throws.**  For every
`StandardLogHandlerFactory`: the settings pass exactly when `host` and `port` are
set, the port is a decimal below `2 ^ 16` with at most whitespace around it, and
each of `protocol`, `max_buffer_size` and `reconnect_interval` that is set
parses; an unset one takes the source's default (TCP, 1 MB, 5 s).  Every other
setting, and only those, goes to the standard factory.  A failure of the
settings is a missing `host` or `port`, a port `folly::to` cannot convert, or
the failure of one setting's own parser, read from the configuration as given.
The function returns exactly when the settings pass and the standard factory
builds a `StandardLogHandler`, which it returns with the writer installed; it
throws otherwise, with the settings' exception, the standard factory's, or
`expected StandardLogHandler`. -/
theorem createHandler_settings (standardFactory : ConfigMap → Except ParseError LogHandler)
    (config : ConfigMap) :
    (∀ args rest, createHandler config = .ok (args, rest) ↔
      config.find (ascii "host") = some args.host ∧
      (∃ portStr a d b, config.find (ascii "port") = some portStr ∧ portStr = a ++ d ++ b ∧
        a.all isSpace = true ∧ d ≠ [] ∧ d.all isDigit = true ∧ b.all isSpace = true ∧
        args.port.val = decimalValue d) ∧
      config.setting (ascii "protocol") parseProtocol .TCP = .ok args.protocol ∧
      config.setting (ascii "max_buffer_size") parseMaxBufferSize (1024 * 1024) =
        .ok args.maxBufferSize ∧
      config.setting (ascii "reconnect_interval") parseReconnectInterval 5000 =
        .ok args.reconnectInterval ∧
      rest.entries = config.entries.filter (fun e => e.1 ∉ networkKeys)) ∧
    (∀ e, createHandler config = .error e →
      (config.find (ascii "host") = none ∧ e = missingParameter (ascii "host")) ∨
      (config.find (ascii "port") = none ∧ e = missingParameter (ascii "port")) ∨
      (∃ portStr, config.find (ascii "port") = some portStr ∧ toUInt16 portStr = .error e ∧
        e = .conversionError) ∨
      config.setting (ascii "protocol") parseProtocol .TCP = .error e ∨
      config.setting (ascii "max_buffer_size") parseMaxBufferSize (1024 * 1024) = .error e ∨
      config.setting (ascii "reconnect_interval") parseReconnectInterval 5000 = .error e) ∧
    (∀ handler, (createHandler config >>= installWriter standardFactory) = .ok handler ↔
      ∃ args rest h, createHandler config = .ok (args, rest) ∧ standardFactory rest = .ok h ∧
        h.standard = true ∧ handler = { h with writer := some args }) ∧
    ∀ e, (createHandler config >>= installWriter standardFactory) = .error e ↔
      createHandler config = .error e ∨ ∃ args rest, createHandler config = .ok (args, rest) ∧
        (standardFactory rest = .error e ∨ ∃ h, standardFactory rest = .ok h ∧
          h.standard = false ∧ e = .runtimeError (ascii "expected StandardLogHandler")) := by
  refine ⟨fun args rest => ?_, fun e he => ?_, fun handler => ?_, fun e => ?_⟩
  · rw [createHandler_eq_ok]
    simp only [toUInt16, toUnsigned_eq_ok, exists_and_left]
  · rcases createHandler_error config e he with h | h | ⟨portStr, hp, hc⟩ | h
    · exact .inl h
    · exact .inr (.inl h)
    · exact .inr (.inr (.inl ⟨portStr, hp, hc, toUnsigned_error hc⟩))
    · exact .inr (.inr (.inr h))
  · rw [bind_eq_ok]
    simp only [Prod.exists, installWriter_eq_ok, exists_and_left]
  · rw [bind_eq_error]
    simp only [Prod.exists, installWriter_eq_error]

/-! ## The writer a configuration builds -/

open NetworkLogWriter (Params World Reachable Started phase)

/-- The writer's parameters from the arguments `createHandler` builds, with the
flag bit of `LogWriter::NEVER_DISCARD`. -/
def WriterArgs.params (args : WriterArgs) (neverDiscard : UInt32) : Params :=
  ⟨args.protocol, args.maxBufferSize.val, args.maxBufferSize.isLt, neverDiscard⟩

theorem parseProtocol_of_udp {s : Bytes} (hu : toLowerAscii s = ascii "udp") :
    parseProtocol s = .ok .UDP := by
  simp only [parseProtocol, hu, if_neg (show ascii "udp" ≠ ascii "tcp" by decide), if_true]

/-- **A handler configured for UDP never sends.**  When `createHandler` accepts a
configuration whose `protocol` is `udp` in any case, the writer it builds issues
no write in any run, and from its first connect until shutdown it waits for a
reconnect that fails again. -/
theorem udpHandler_never_sends {config rest : ConfigMap} {args : WriterArgs} {s : Bytes}
    {neverDiscard : UInt32} {w : World} (hc : createHandler config = .ok (args, rest))
    (hs : config.find (ascii "protocol") = some s) (hu : toLowerAscii s = ascii "udp")
    (hw : Reachable (args.params neverDiscard) w) :
    (∀ i, w.writes i = []) ∧ (Started w → w.looping = true → phase w = .reconnectScheduled) := by
  have hp := ((createHandler_eq_ok config args rest).mp hc).2.2.1
  simp only [setting, hs, parseProtocol_of_udp hu] at hp
  exact NetworkLogWriter.udp_never_sends (Except.ok.inj hp).symm hw

/-- A handler for UDP, named in capitals, and its arguments. -/
def udpConfig : ConfigMap :=
  ⟨[(ascii "host", ascii "localhost"), (ascii "port", ascii "514"), (ascii "protocol", ascii "UDP")],
    by decide⟩

def udpArgs : WriterArgs := ⟨ascii "localhost", 514, .UDP, 1024 * 1024, 5000⟩

/-- Its writer, after the constructor's connect, a message and a flush. -/
def udpRun : World :=
  (NetworkLogWriter.run (udpArgs.params 1) NetworkLogWriter.init
    [.runTask, .writeMessage [97] 0, .flush, .runTask]).get (by decide)

theorem udpConfig_never_sends :
    createHandler udpConfig = .ok (udpArgs, ⟨[], List.nodup_nil⟩) ∧
      udpConfig.find (ascii "protocol") = some (ascii "UDP") ∧
      toLowerAscii (ascii "UDP") = ascii "udp" ∧
      (∀ i, udpRun.writes i = []) ∧
      (Started udpRun → udpRun.looping = true → phase udpRun = .reconnectScheduled) :=
  have hc : createHandler udpConfig = .ok (udpArgs, ⟨[], List.nodup_nil⟩) := rfl
  have hs : udpConfig.find (ascii "protocol") = some (ascii "UDP") := by decide
  have hu : toLowerAscii (ascii "UDP") = ascii "udp" := by decide
  ⟨hc, hs, hu, udpHandler_never_sends hc hs hu
    (NetworkLogWriter.ReachableBy.of_run_get _ (fun _ _ => trivial) _)⟩

end Folly.NetworkHandlerFactory
