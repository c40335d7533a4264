import NetworkLogging.Bytes

/-! # Reading a JSON record

What a collector does with a record of `JSONLogFormatter`: it reads a JSON text
byte by byte, following RFC 8259.  This module is that reading, for the values
the formatter emits (strings, and integers written as decimal numerals) inside
one object with no nesting.  It is not code of the repository: it states what
the formatter's output means, so that `formatMessage` can be shown to produce
it.

Inside a string an unescaped character is a byte `0x20` or above other than `"`
and `\`; the escapes are `\"`, `\\`, `\/`, `\b`, `\f`, `\n`, `\r`, `\t` and
`\uXXXX`, the last one decoded to the UTF-8 bytes of its code point.  A number is
an optional minus sign and digits without a leading zero.

The second half gives the texts that read back: `objectText` lays out members
between braces with the whitespace of a layout, and `readObject_objectText`
reads any such text back into its keys and values, given for each member that
its key needs no escape and its text `Reads` as its value.
-/
namespace Folly.Json

/-- JSON's whitespace: space, tab, line feed and carriage return. -/
def isWs (c : UInt8) : Bool := c == 0x20 || c == 0x09 || c == 0x0a || c == 0x0d

/-- The input after the whitespace at its front. -/
def skipWs : Bytes → Bytes
  | [] => []
  | c :: cs => if isWs c then skipWs cs else c :: cs

/-- A byte that stands for itself inside a JSON string. -/
def isUnescaped (c : UInt8) : Bool := 0x20 ≤ c && c != 0x22 && c != 0x5c

/-- The byte an escape other than `\u` stands for. -/
def simpleEscape (e : UInt8) : Option UInt8 :=
  if e = 0x22 then some 0x22
  else if e = 0x5c then some 0x5c
  else if e = 0x2f then some 0x2f
  else if e = 0x62 then some 0x08
  else if e = 0x66 then some 0x0c
  else if e = 0x6e then some 0x0a
  else if e = 0x72 then some 0x0d
  else if e = 0x74 then some 0x09
  else none

/-- The value of a hexadecimal digit. -/
def hexValue (c : UInt8) : Option Nat :=
  if 0x30 ≤ c && c ≤ 0x39 then some (c.toNat - 0x30)
  else if 0x61 ≤ c && c ≤ 0x66 then some (c.toNat - 0x61 + 10)
  else if 0x41 ≤ c && c ≤ 0x46 then some (c.toNat - 0x41 + 10)
  else none

/-- The code point of the four digits of a `\u` escape. -/
def hex4Value (h1 h2 h3 h4 : UInt8) : Option Nat := do
  let a ← hexValue h1
  let b ← hexValue h2
  let c ← hexValue h3
  let d ← hexValue h4
  pure (((a * 16 + b) * 16 + c) * 16 + d)

/-- The UTF-8 bytes of a code point of the Basic Multilingual Plane.  A surrogate
is not a character; this reading does not pair surrogate escapes. -/
def utf8 (cp : Nat) : Option Bytes :=
  if cp < 0x80 then some [cp.toUInt8]
  else if cp < 0x800 then some [(0xc0 + cp / 64).toUInt8, (0x80 + cp % 64).toUInt8]
  else if 0xd800 ≤ cp ∧ cp < 0xe000 then none
  else some [(0xe0 + cp / 4096).toUInt8, (0x80 + cp / 64 % 64).toUInt8, (0x80 + cp % 64).toUInt8]

/-- Put `bs` in front of the bytes read so far. -/
def prepend (bs : Bytes) (r : Option (Bytes × Bytes)) : Option (Bytes × Bytes) :=
  r.map fun p => (bs ++ p.1, p.2)

mutual

/-- The characters of a string after its opening quote: the bytes they stand for,
and the input after the closing quote. -/
def readChars : Bytes → Option (Bytes × Bytes)
  | [] => none
  | c :: rest =>
    if c = 0x22 then some ([], rest)
    else if c = 0x5c then readEscape rest
    else if c < 0x20 then none
    else prepend [c] (readChars rest)

/-- The characters after a backslash. -/
def readEscape : Bytes → Option (Bytes × Bytes)
  | [] => none
  | e :: rest =>
    match simpleEscape e with
    | some b => prepend [b] (readChars rest)
    | none => if e = 0x75 then readUnicode rest else none

/-- The characters after `\u`. -/
def readUnicode : Bytes → Option (Bytes × Bytes)
  | h1 :: h2 :: h3 :: h4 :: rest =>
    match hex4Value h1 h2 h3 h4 >>= utf8 with
    | some bs => prepend bs (readChars rest)
    | none => none
  | _ => none

end

/-- A string. -/
def readString : Bytes → Option (Bytes × Bytes)
  | c :: rest => if c = 0x22 then readChars rest else none
  | [] => none

/-- The digits of a number: at least one, and no leading zero. -/
def readNat (s : Bytes) : Option (Nat × Bytes) :=
  match s.takeWhile isDigit with
  | [] => none
  | d :: ds => if d = 0x30 ∧ ds ≠ [] then none else some (decimalValue (d :: ds), s.dropWhile isDigit)

/-- A number without fraction or exponent. -/
def readInt : Bytes → Option (Int × Bytes)
  | c :: rest =>
    if c = 0x2d then (readNat rest).map fun r => (-(r.1 : Int), r.2)
    else (readNat (c :: rest)).map fun r => ((r.1 : Int), r.2)
  | [] => none

/-- The values of a record. -/
inductive Value
  | string (s : Bytes)
  | number (n : Int)
  deriving DecidableEq, Repr

/-- A value. -/
def readValue : Bytes → Option (Value × Bytes)
  | [] => none
  | c :: rest =>
    if c = 0x22 then (readChars rest).map fun r => (.string r.1, r.2)
    else (readInt (c :: rest)).map fun r => (.number r.1, r.2)

/-- A member `"key": value` with the whitespace around it. -/
def readMember (s : Bytes) : Option ((Bytes × Value) × Bytes) := do
  let (key, s) ← readString (skipWs s)
  match skipWs s with
  | c :: s =>
    if c = 0x3a then do
      let (v, s) ← readValue (skipWs s)
      pure ((key, v), skipWs s)
    else none
  | [] => none

/-- The members after the first, each after a comma, up to the closing brace. -/
def readMoreMembers : Nat → Bytes → Option (List (Bytes × Value) × Bytes)
  | 0, _ => none
  | _ + 1, [] => none
  | fuel + 1, c :: s =>
    if c = 0x7d then some ([], s)
    else if c = 0x2c then do
      let (m, s) ← readMember s
      let (ms, s) ← readMoreMembers fuel s
      pure (m :: ms, s)
    else none

/-- An object: its members in order, and the input after its closing brace. -/
def readObject (s : Bytes) : Option (List (Bytes × Value) × Bytes) :=
  match skipWs s with
  | c :: s =>
    if c = 0x7b then
      match skipWs s with
      | c' :: s' =>
        if c' = 0x7d then some ([], s')
        else do
          let (m, s) ← readMember s
          let (ms, s) ← readMoreMembers s.length s
          pure (m :: ms, s)
      | [] => none
    else none
  | [] => none

/-! ## What reads back -/

theorem skipWs_append {w : Bytes} (hw : w.all isWs = true) (t : Bytes) :
    skipWs (w ++ t) = skipWs t := by
  induction w with
  | nil => rfl
  | cons c w ih =>
    simp only [List.all_cons, Bool.and_eq_true] at hw
    simp [skipWs, hw.1, ih hw.2]

/-- No digit is whitespace. -/
theorem isDigit_eq_false_of_isWs {c : UInt8} (h : isWs c = true) : isDigit c = false := by
  simp only [isWs, Bool.or_eq_true, beq_iff_eq] at h
  rcases h with ((rfl | rfl) | rfl) | rfl <;> rfl

theorem skipWs_cons {c : UInt8} (h : isWs c = false) (t : Bytes) : skipWs (c :: t) = c :: t := by
  simp [skipWs, h]

/-! The three ways `readChars` reads a character other than the closing quote. -/

theorem readChars_cons {c : UInt8} (h : isUnescaped c = true) (t : Bytes) :
    readChars (c :: t) = prepend [c] (readChars t) := by
  simp only [isUnescaped, Bool.and_eq_true, decide_eq_true_eq, bne_iff_ne, ne_eq] at h
  have hlt : ¬c < 0x20 := by
    have := h.1.1; simp only [UInt8.le_def, UInt8.lt_def, BitVec.le_def, BitVec.lt_def] at *; omega
  simp [readChars, h.1.2, h.2, hlt]

theorem readChars_escape {e b : UInt8} (h : simpleEscape e = some b) (t : Bytes) :
    readChars (0x5c :: e :: t) = prepend [b] (readChars t) := by
  simp [readChars, readEscape, h]

theorem readChars_unicode {h1 h2 h3 h4 : UInt8} {bs : Bytes}
    (h : hex4Value h1 h2 h3 h4 >>= utf8 = some bs) (t : Bytes) :
    readChars (0x5c :: 0x75 :: h1 :: h2 :: h3 :: h4 :: t) = prepend bs (readChars t) := by
  rw [readChars, if_neg (by decide), if_pos rfl, readEscape]
  show (if (0x75 : UInt8) = 0x75 then readUnicode (h1 :: h2 :: h3 :: h4 :: t) else none) = _
  rw [if_pos rfl, readUnicode, h]

/-- **Unescaped bytes read as themselves.** -/
theorem readChars_unescaped {s : Bytes} (hs : s.all isUnescaped = true) (t : Bytes) :
    readChars (s ++ 0x22 :: t) = some (s, t) := by
  induction s with
  | nil => simp [readChars]
  | cons c s ih =>
    simp only [List.all_cons, Bool.and_eq_true] at hs
    rw [List.cons_append, readChars_cons hs.1, ih hs.2]
    rfl

/-- A decimal numeral, followed by anything but a digit, reads as its value. -/
theorem readNat_decimal (n : Nat) {t : Bytes} (ht : startsWithDigit t = false) :
    readNat (decimal n ++ t) = some (n, t) := by
  have hd := decimal_all_digits n
  have hall : (decimal n).all isDigit = true := by simpa using hd
  have hdrop : (decimal n ++ t).dropWhile isDigit = t := by
    rw [List.dropWhile_append_of_pos (by simpa using hd)]
    cases t with
    | nil => rfl
    | cons c rest => simp only [startsWithDigit] at ht; simp [List.dropWhile_cons, ht]
  obtain ⟨d, ds, hdec, hzero⟩ := decimal_no_leading_zero n
  unfold readNat
  rw [takeWhile_isDigit_append hall ht, hdrop, hdec]
  have : ¬(d = 0x30 ∧ ds ≠ []) := fun ⟨h1, h2⟩ => h2 (hzero h1)
  simp only [this, if_false, ← hdec, decimalValue_decimal]

/-- `text` is the JSON text of `v`: after any whitespace, and before anything that
cannot continue a number, it reads as `v`. -/
def Reads (text : Bytes) (v : Value) : Prop :=
  ∀ w t, w.all isWs = true → startsWithDigit t = false →
    readValue (skipWs (w ++ text ++ t)) = some (v, t)

/-- A string that needs no escape, between quotes. -/
theorem reads_unescaped {s : Bytes} (hs : s.all isUnescaped = true) :
    Reads (0x22 :: s ++ [0x22]) (.string s) := by
  intro w t hw _
  rw [List.append_assoc, skipWs_append hw]
  simp [skipWs_cons (show isWs 0x22 = false from rfl), readValue, readChars_unescaped hs]

/-- A decimal numeral. -/
theorem reads_decimal (n : Nat) : Reads (decimal n) (.number n) := by
  intro w t hw ht
  obtain ⟨d, ds, hdec, -⟩ := decimal_no_leading_zero n
  have hdig : isDigit d = true := decimal_all_digits n d (by simp [hdec])
  have hws : isWs d = false := by
    cases h : isWs d
    · rfl
    · rw [isDigit_eq_false_of_isWs h] at hdig; cases hdig
  have hquote : d ≠ 0x22 := fun h => by subst h; simp [isDigit] at hdig
  have hminus : d ≠ 0x2d := fun h => by subst h; simp [isDigit] at hdig
  rw [List.append_assoc, skipWs_append hw, hdec, List.cons_append, skipWs_cons hws]
  simp only [readValue, hquote, if_false, readInt, hminus]
  rw [← List.cons_append, ← hdec, readNat_decimal n ht]
  rfl

/-- One member of a record: its key, its text and the value the text stands for. -/
structure Field where
  key : Bytes
  text : Bytes
  value : Value

/-- A member whose key needs no escape and whose text reads as its value. -/
def Field.Valid (f : Field) : Prop := f.key.all isUnescaped = true ∧ Reads f.text f.value

/-- `"key":` then the separator `colon` and the value's text. -/
def memberText (colon : Bytes) (f : Field) : Bytes := 0x22 :: f.key ++ 0x22 :: 0x3a :: (colon ++ f.text)

/-- The members after the first, each after a comma and the layout's `lead`. -/
def moreMembersText (lead colon : Bytes) : List Field → Bytes
  | [] => []
  | f :: fs => 0x2c :: (lead ++ memberText colon f ++ moreMembersText lead colon fs)

/-- An object of at least one member: `lead` before each member, `colon` after
each key's colon, and `tail` before the closing brace. -/
def objectText (lead colon tail : Bytes) (f : Field) (fs : List Field) : Bytes :=
  0x7b :: (lead ++ memberText colon f ++ moreMembersText lead colon fs ++ tail ++ [0x7d])

theorem startsWithDigit_moreMembersText {tail : Bytes} (ht : tail.all isWs = true)
    (lead colon : Bytes) (fs : List Field) (rest : Bytes) :
    startsWithDigit (moreMembersText lead colon fs ++ tail ++ 0x7d :: rest) = false := by
  cases fs with
  | cons => rfl
  | nil =>
    cases tail with
    | nil => rfl
    | cons c tail =>
      simp only [List.all_cons, Bool.and_eq_true] at ht
      exact isDigit_eq_false_of_isWs ht.1

theorem length_moreMembersText (lead colon : Bytes) (fs : List Field) :
    fs.length ≤ (moreMembersText lead colon fs).length := by
  induction fs with
  | nil => simp [moreMembersText]
  | cons f fs ih => simp [moreMembersText]; omega

/-- A byte that is no punctuation of an object and occurs in no key, no text and
no whitespace of the layout does not occur in the object's text. -/
theorem not_mem_objectText {b : UInt8}
    (hb : b ≠ 0x7b ∧ b ≠ 0x7d ∧ b ≠ 0x22 ∧ b ≠ 0x3a ∧ b ≠ 0x2c) {lead colon tail : Bytes}
    (hl : b ∉ lead) (hc : b ∉ colon) (ht : b ∉ tail) {f : Field} {fs : List Field}
    (hf : ∀ g ∈ f :: fs, b ∉ g.key ∧ b ∉ g.text) : b ∉ objectText lead colon tail f fs := by
  obtain ⟨hopen, hclose, hquote, hcolon, hcomma⟩ := hb
  have hm : ∀ g ∈ f :: fs, b ∉ memberText colon g := fun g hg => by
    simp only [memberText, List.cons_append, List.mem_cons, List.mem_append, not_or]
    exact ⟨hquote, (hf g hg).1, hquote, hcolon, hc, (hf g hg).2⟩
  have hmore : ∀ gs : List Field, (∀ g ∈ gs, b ∉ memberText colon g) →
      b ∉ moreMembersText lead colon gs := by
    intro gs
    induction gs with
    | nil => simp [moreMembersText]
    | cons g gs ih =>
      intro h
      simp only [moreMembersText, List.mem_cons, List.mem_append, not_or]
      exact ⟨hcomma, ⟨hl, h g (List.mem_cons_self g gs)⟩, ih fun g' hg' => h g' (List.mem_cons_of_mem g hg')⟩
  simp only [objectText, List.mem_cons, List.mem_append, List.mem_singleton, List.not_mem_nil,
    or_false, not_or]
  exact ⟨hopen, ⟨⟨⟨hl, hm f (List.mem_cons_self f fs)⟩,
    hmore fs fun g hg => hm g (List.mem_cons_of_mem f hg)⟩, ht⟩, hclose⟩

section Layout
variable {lead colon tail : Bytes} (hl : lead.all isWs = true) (hc : colon.all isWs = true)
  (ht : tail.all isWs = true)
include hl hc

theorem readMember_memberText {f : Field} (hf : f.Valid) {t : Bytes}
    (hd : startsWithDigit t = false) :
    readMember (lead ++ memberText colon f ++ t) = some ((f.key, f.value), skipWs t) := by
  have hkey : readString (skipWs (lead ++ (memberText colon f ++ t))) =
      some (f.key, 0x3a :: (colon ++ (f.text ++ t))) := by
    rw [skipWs_append hl]
    simp only [memberText, List.cons_append, List.append_assoc,
      skipWs_cons (show isWs 0x22 = false from rfl), readString, if_pos]
    exact readChars_unescaped hf.1 _
  have hv := hf.2 colon t hc hd
  simp only [List.append_assoc] at hv
  simp [readMember, hkey, skipWs_cons (show isWs 0x3a = false from rfl), hv, bind, Option.bind,
    pure]

include ht

/-- **The members after the first read back**, given fuel for each. -/
theorem readMoreMembers_text {fs : List Field} (hfs : ∀ f ∈ fs, f.Valid) (rest : Bytes)
    (fuel : Nat) (hfuel : fs.length < fuel) :
    readMoreMembers fuel (skipWs (moreMembersText lead colon fs ++ tail ++ 0x7d :: rest)) =
      some (fs.map fun f => (f.key, f.value), rest) := by
  induction fs generalizing fuel with
  | nil =>
    obtain ⟨fuel, rfl⟩ : ∃ k, fuel = k + 1 := ⟨fuel - 1, by simp at hfuel; omega⟩
    simp [moreMembersText, skipWs_append ht, skipWs_cons (show isWs 0x7d = false from rfl),
      readMoreMembers]
  | cons f fs ih =>
    obtain ⟨fuel, rfl⟩ : ∃ k, fuel = k + 1 := ⟨fuel - 1, by simp at hfuel; omega⟩
    have hm := readMember_memberText hl hc (hfs f (List.mem_cons_self f fs))
      (startsWithDigit_moreMembersText ht lead colon fs rest)
    have hrest := ih (fun g hg => hfs g (List.mem_cons_of_mem f hg)) fuel
      (by simp at hfuel; omega)
    simp only [moreMembersText, List.cons_append, skipWs_cons (show isWs 0x2c = false from rfl),
      readMoreMembers]
    simp only [List.append_assoc] at hm hrest ⊢
    simp [hm, hrest, bind, Option.bind, pure]

/-- **A record reads back**: the keys and values of its members, in order, and
what follows the closing brace. -/
theorem readObject_objectText {f : Field} {fs : List Field} (hf : f.Valid)
    (hfs : ∀ g ∈ fs, g.Valid) (rest : Bytes) :
    readObject (objectText lead colon tail f fs ++ rest) =
      some ((f.key, f.value) :: fs.map fun g => (g.key, g.value), rest) := by
  set T := moreMembersText lead colon fs ++ tail ++ 0x7d :: rest
  have hm := readMember_memberText hl hc hf (startsWithDigit_moreMembersText ht lead colon fs rest)
  have hlen : fs.length < (skipWs T).length := by
    cases fs with
    | nil => simp [T, moreMembersText, skipWs_append ht, skipWs_cons (show isWs 0x7d = false from rfl)]
    | cons g gs =>
      have := length_moreMembersText lead colon gs
      simp [T, moreMembersText, skipWs_cons (show isWs 0x2c = false from rfl)]; omega
  have hmore := readMoreMembers_text hl hc ht hfs rest _ hlen
  have hfirst : skipWs (lead ++ (memberText colon f ++ T)) =
      0x22 :: (f.key ++ 0x22 :: 0x3a :: (colon ++ (f.text ++ T))) := by
    rw [skipWs_append hl]
    simp only [memberText, List.cons_append, List.append_assoc,
      skipWs_cons (show isWs 0x22 = false from rfl)]
  simp only [objectText, List.cons_append, readObject, skipWs_cons (show isWs 0x7b = false from rfl),
    if_pos, List.append_assoc, List.singleton_append, List.nil_append]
  simp only [T, List.append_assoc] at hm hmore hfirst
  rw [hfirst]
  simp [show (0x22 : UInt8) ≠ 0x7d by decide, hm, hmore, bind, Option.bind, pure]

end Layout

end Folly.Json
