import Mathlib.Data.List.Infix
import Mathlib.Data.List.TakeWhile
import Apcos.Source.Python.Value

/-!
# Text, numbers and dates of the Python runtime

`str.strip`, `str.split`, `float()`, `str()`, `datetime.isoformat` and the UTC
conversion follow the language reference for Python 3.11. What depends on the
Unicode database of the interpreter or on a grammar of its library is a field
of `Runtime`; the fields that are propositions state the documented behaviour
the audited code relies on. Results hold for every `Runtime`.
-/
namespace Apcos.Source.Python

/-- Along the list, not over all characters. -/
instance (priority := 2000) decidableForallMem (cs : List Char) (p : Char → Prop)
    [DecidablePred p] : Decidable (∀ c ∈ cs, p c) :=
  List.decidableBAll p cs

/-- Code points with `str.isspace()`. -/
def isSpace (c : Char) : Bool :=
  let n := c.toNat
  (9 ≤ n && n ≤ 13) || (28 ≤ n && n ≤ 32) || n == 0x85 || n == 0xa0 || n == 0x1680 ||
    (0x2000 ≤ n && n ≤ 0x200a) || n == 0x2028 || n == 0x2029 || n == 0x202f || n == 0x205f ||
    n == 0x3000

/-- Remove the characters of a class from both ends. -/
def trimChars (p : Char → Bool) (cs : List Char) : List Char :=
  ((cs.dropWhile p).reverse.dropWhile p).reverse

theorem trimChars_framed {p : Char → Bool} {first last ending : Char} (inner : List Char)
    (opens : p first = false) (closes : p last = false) (ends : p ending = true) :
    trimChars p (first :: inner ++ [last, ending]) = first :: inner ++ [last] := by
  simp [trimChars, opens, closes, ends]

theorem dropWhile_kept {p : Char → Bool} {cs rest : List Char} {c : Char}
    (left : cs.dropWhile p = c :: rest) : p c = false := by
  have first := List.head?_dropWhile_not p cs
  rw [left] at first
  exact first

/-- Trimming leaves nothing of a text exactly when all of it is trimmed. -/
theorem trimChars_eq_nil (p : Char → Bool) (cs : List Char) :
    trimChars p cs = [] ↔ ∀ c ∈ cs, p c = true := by
  rw [trimChars, List.reverse_eq_nil_iff, List.dropWhile_eq_nil_iff]
  constructor
  · intro stripped
    have none_left : cs.dropWhile p = [] := by
      cases left : cs.dropWhile p with
      | nil => rfl
      | cons c rest =>
        have kept := dropWhile_kept left
        have dropped := stripped c (by rw [left]; simp)
        rw [kept] at dropped
        cases dropped
    exact List.dropWhile_eq_nil_iff.mp none_left
  · intro all c member
    exact all c (List.dropWhile_sublist p |>.subset (List.mem_reverse.mp member))

theorem trimChars_append (p : Char → Bool) (cs : List Char) :
    trimChars p cs ++ ((cs.dropWhile p).reverse.takeWhile p).reverse = cs.dropWhile p := by
  rw [trimChars, ← List.reverse_append, List.takeWhile_append_dropWhile, List.reverse_reverse]

theorem trimChars_length (p : Char → Bool) (cs : List Char) :
    (trimChars p cs).length ≤ cs.length := by
  rw [trimChars, List.length_reverse]
  have inner := List.length_dropWhile_le p (cs.dropWhile p).reverse
  have outer := List.length_dropWhile_le p cs
  rw [List.length_reverse] at inner
  omega

theorem trimChars_append_of_head {p : Char → Bool} {cs : List Char}
    (visible : ∀ c ∈ cs.head?, p c = false) : ∃ rest, cs = trimChars p cs ++ rest := by
  have kept : cs.dropWhile p = cs := by
    cases cs with
    | nil => rfl
    | cons c rest => exact List.dropWhile_cons_of_neg (by simp [visible c rfl])
  refine ⟨((cs.dropWhile p).reverse.takeWhile p).reverse, ?_⟩
  rw [trimChars_append, kept]

/-- Neither end of what is left belongs to the class. -/
theorem trimChars_ends (p : Char → Bool) (cs : List Char) (c : Char)
    (atEnd : (trimChars p cs).head? = some c ∨ (trimChars p cs).getLast? = some c) :
    p c = false := by
  rcases atEnd with first | last
  · obtain ⟨rest, shape⟩ := List.head?_eq_some_iff.mp first
    have whole := trimChars_append p cs
    rw [shape, List.cons_append] at whole
    exact dropWhile_kept whole.symm
  · rw [trimChars, List.getLast?_reverse] at last
    obtain ⟨rest, shape⟩ := List.head?_eq_some_iff.mp last
    exact dropWhile_kept shape

/-- What is removed at either end belongs to the class. -/
theorem trimChars_split (p : Char → Bool) (cs : List Char) :
    ∃ before after, cs = before ++ trimChars p cs ++ after ∧
      (∀ c ∈ before, p c = true) ∧ ∀ c ∈ after, p c = true := by
  refine ⟨cs.takeWhile p, ((cs.dropWhile p).reverse.takeWhile p).reverse, ?_, ?_, ?_⟩
  · rw [List.append_assoc, trimChars_append, List.takeWhile_append_dropWhile]
  · exact fun c member => List.mem_takeWhile_imp member
  · exact fun c member => List.mem_takeWhile_imp (List.mem_reverse.mp member)

/-- What is left between such ends stays when its own two ends are not of the class. -/
theorem trimChars_of_split {p : Char → Bool} {before inner after : List Char}
    (opening : ∀ c ∈ before, p c = true)
    (ends : ∀ c, inner.head? = some c ∨ inner.getLast? = some c → p c = false)
    (closing : ∀ c ∈ after, p c = true) : trimChars p (before ++ inner ++ after) = inner := by
  cases shape : inner.reverse with
  | nil =>
    rw [List.reverse_eq_nil_iff] at shape
    subst shape
    rw [trimChars_eq_nil]
    intro c member
    simp only [List.append_nil, List.mem_append] at member
    exact member.elim (opening c) (closing c)
  | cons last rest =>
    have last_kept : p last = false := by
      apply ends last
      right
      rw [← List.head?_reverse, shape]
      rfl
    have first_kept : (inner ++ after).dropWhile p = inner ++ after := by
      cases inner with
      | nil => cases shape
      | cons first others =>
        have stays := ends first (Or.inl rfl)
        simp [stays]
    have ending : (inner ++ after).reverse.dropWhile p = inner.reverse := by
      rw [List.reverse_append, List.dropWhile_append_of_pos
        (fun c member => closing c (List.mem_reverse.mp member)), shape]
      simp [last_kept]
    rw [trimChars, List.append_assoc, List.dropWhile_append_of_pos opening, first_kept, ending,
      List.reverse_reverse]

/-- A wider class removes no more when neither end of what is left belongs to it. -/
theorem trimChars_widen {p q : Char → Bool} (wider : ∀ c, p c = true → q c = true)
    (cs : List Char) (ends : ∀ c, (trimChars p cs).head? = some c ∨
      (trimChars p cs).getLast? = some c → q c = false) :
    trimChars q cs = trimChars p cs := by
  obtain ⟨before, after, split, opening, closing⟩ := trimChars_split p cs
  have shape := trimChars_of_split (fun c member => wider c (opening c member)) ends
    (fun c member => wider c (closing c member))
  rw [← split] at shape
  exact shape

theorem trimChars_trimChars (p : Char → Bool) (cs : List Char) :
    trimChars p (trimChars p cs) = trimChars p cs := by
  have shape : trimChars p ([] ++ trimChars p cs ++ []) = trimChars p cs :=
    trimChars_of_split (by simp) (trimChars_ends p cs) (by simp)
  simpa using shape

def strip (s : String) : String := String.ofList (trimChars isSpace s.toList)

theorem strip_strip (s : String) : strip (strip s) = strip s := by
  rw [strip, strip, String.toList_ofList, trimChars_trimChars]

/-- `not s.strip()`. -/
def blank (s : String) : Bool := strip s == ""

theorem blank_iff (s : String) : blank s = true ↔ ∀ c ∈ s.toList, isSpace c = true := by
  rw [blank, beq_iff_eq, strip, String.ofList_eq_empty_iff, trimChars_eq_nil]

/-- `s.split()`: the maximal runs of non-space characters. `word` is the run
being read, in reverse. -/
def splitChars : List Char → List Char → List (List Char)
  | word, [] => if word.isEmpty then [] else [word.reverse]
  | word, c :: rest =>
    if isSpace c then
      (if word.isEmpty then splitChars [] rest else word.reverse :: splitChars [] rest)
    else splitChars (c :: word) rest

def split (s : String) : List String := (splitChars [] s.toList).map String.ofList

def isAsciiUpper (c : Char) : Bool := 'A' ≤ c && c ≤ 'Z'

def isAsciiLower (c : Char) : Bool := 'a' ≤ c && c ≤ 'z'

def asciiLower (c : Char) : Char := if isAsciiUpper c then Char.ofNat (c.toNat + 32) else c

def asciiUpper (c : Char) : Char := if isAsciiLower c then Char.ofNat (c.toNat - 32) else c

def isAscii (s : String) : Bool := s.toList.all fun c => c.toNat < 128

/-- Interpreter-dependent library functions. `none` is the `ValueError` of the
corresponding call; `decimal c` is the value of a decimal digit (`\d`). -/
structure Runtime where
  lower : String → String
  upper : String → String
  fromisoformat : String → Option DateTime
  floatOfText : String → Option PyFloat
  intOfText : String → Option Int
  decimal : Char → Option Nat
  repr : Value → String
  lower_ascii : ∀ s, isAscii s = true → lower s = String.ofList (s.toList.map asciiLower)
  upper_ascii : ∀ s, isAscii s = true → upper s = String.ofList (s.toList.map asciiUpper)
  decimal_ascii : ∀ c, c.toNat < 128 →
    decimal c = if '0' ≤ c ∧ c ≤ '9' then some (c.toNat - 48) else none

/-- A runtime for ASCII text that knows no date and no number text. -/
def asciiRuntime : Runtime where
  lower s := String.ofList (s.toList.map asciiLower)
  upper s := String.ofList (s.toList.map asciiUpper)
  fromisoformat _ := none
  floatOfText _ := none
  intOfText _ := none
  decimal c := if '0' ≤ c ∧ c ≤ '9' then some (c.toNat - 48) else none
  repr _ := ""
  lower_ascii _ _ := rfl
  upper_ascii _ _ := rfl
  decimal_ascii _ _ := rfl

/-- `str(value)`. -/
def str (py : Runtime) (v : Value) : Except Exc String :=
  match v with
  | .str s => .ok s
  | v =>
    if v.printable then .ok (py.repr v)
    else .error ⟨.valueError, "Exceeds the limit (4300 digits) for integer string conversion"⟩

/-- `float(value)`. -/
def float (py : Runtime) (v : Value) : Except Exc PyFloat :=
  match v with
  | .float x => .ok x
  | .int n =>
    match floatOfInt n with
    | some x => .ok x
    | none => .error ⟨.overflowError, "int too large to convert to float"⟩
  | .bool b => .ok (.finite (if b then 1 else 0))
  | .str s =>
    match py.floatOfText s with
    | some x => .ok x
    | none => .error ⟨.valueError, "could not convert string to float: " ++ py.repr v⟩
  | _ => .error ⟨.typeError, "float() argument must be a string or a real number"⟩

/-- `int(value)`; a float is truncated towards zero. -/
def int (py : Runtime) (v : Value) : Except Exc Int :=
  match v with
  | .int n => .ok n
  | .bool b => .ok (if b then 1 else 0)
  | .float (.finite q) => .ok (q.num.tdiv q.den)
  | .float .nan => .error ⟨.valueError, "cannot convert float NaN to integer"⟩
  | .float (.infinity _) => .error ⟨.overflowError, "cannot convert float infinity to integer"⟩
  | .str s =>
    match py.intOfText s with
    | some n => .ok n
    | none => .error ⟨.valueError, "invalid literal for int() with base 10: " ++ py.repr v⟩
  | _ => .error ⟨.typeError, "int() argument must be a string, a bytes-like object or a real number"⟩

/-- `s.replace(old, new)` for a one-character `old`. -/
def replaceChar (old : Char) (new : String) (s : String) : String :=
  String.ofList (s.toList.flatMap fun c => if c = old then new.toList else [c])

/-- `part in text`. -/
def contains (text part : String) : Bool := decide (part.toList <:+: text.toList)

/-- Continuation bytes of a UTF-8 sequence, six bits each. -/
def utf8Tail : Nat → Nat → List UInt8 → Option Nat
  | 0, n, _ => some n
  | _ + 1, _, [] => none
  | k + 1, n, b :: rest =>
    if 0x80 ≤ b.toNat ∧ b.toNat < 0xc0 then utf8Tail k (n * 64 + b.toNat % 64) rest else none

/-- The character that starts at a byte, and how many bytes follow it. Overlong
forms, surrogates and values above U+10FFFF are no characters. -/
def utf8Head (b : UInt8) (rest : List UInt8) : Option (Char × Nat) :=
  let lead := b.toNat
  let sequence (following least bits : Nat) : Option (Char × Nat) :=
    match utf8Tail following bits rest with
    | none => none
    | some n => if least ≤ n ∧ n.isValidChar then some (Char.ofNat n, following) else none
  if lead < 0x80 then sequence 0 0 lead
  else if lead < 0xc0 then none
  else if lead < 0xe0 then sequence 1 0x80 (lead % 32)
  else if lead < 0xf0 then sequence 2 0x800 (lead % 16)
  else if lead < 0xf8 then sequence 3 0x10000 (lead % 8)
  else none

/-- Bytes at which no character starts are left out; the bytes of one read already
are passed over first. -/
def decodeFrom : Nat → List UInt8 → List Char
  | _, [] => []
  | passed + 1, _ :: rest => decodeFrom passed rest
  | 0, b :: rest =>
    match utf8Head b rest with
    | some (c, following) => c :: decodeFrom following rest
    | none => decodeFrom 0 rest

/-- `data.decode("utf-8", errors="ignore")`. -/
def decodeIgnore (data : List UInt8) : String := String.ofList (decodeFrom 0 data)

example : decodeIgnore [0x41, 0xc3, 0xa9, 0xff, 0xe2, 0x82, 0x42] = "A\u00e9B" := by decide

/-! ## Dates -/

def daysBeforeMonth : List Nat := [0, 0, 31, 59, 90, 120, 151, 181, 212, 243, 273, 304, 334]

def daysInMonth : List Nat := [0, 31, 28, 31, 30, 31, 30, 31, 31, 30, 31, 30, 31]

/-- CPython's `_ord2ymd`, on a zero-based day number. -/
def ord2ymd (day : Nat) : Nat × Nat × Nat :=
  let n400 := day / 146097
  let n := day % 146097
  let n100 := n / 36524
  let n := n % 36524
  let n4 := n / 1461
  let n := n % 1461
  let n1 := n / 365
  let n := n % 365
  let year := n400 * 400 + 1 + n100 * 100 + n4 * 4 + n1
  if n1 = 4 ∨ n100 = 4 then (year - 1, 12, 31)
  else
    let leap := n1 = 3 ∧ (n4 ≠ 24 ∨ n100 = 3)
    let month := (n + 50) / 32
    let preceding := daysBeforeMonth.getD month 0 + (if 2 < month ∧ leap then 1 else 0)
    if n < preceding then
      let month := month - 1
      let preceding := preceding - (daysInMonth.getD month 0 + (if month = 2 ∧ leap then 1 else 0))
      (year, month, n - preceding + 1)
    else (year, month, n - preceding + 1)

/-- Decimal digits of `n`, padded with zeros to `width`. -/
def padded (width n : Nat) : String :=
  let digits := Nat.toDigits 10 n
  String.ofList (List.replicate (width - digits.length) '0' ++ digits)

/-- `+HH:MM[:SS[.ffffff]]`. -/
def offsetText (offset : Int) : String :=
  let total := offset.natAbs
  let seconds := total / 10 ^ 6
  let sign := if offset < 0 then "-" else "+"
  let clock := sign ++ padded 2 (seconds / 3600) ++ ":" ++ padded 2 (seconds / 60 % 60)
  if total % 10 ^ 6 ≠ 0 then
    clock ++ ":" ++ padded 2 (seconds % 60) ++ "." ++ padded 6 (total % 10 ^ 6)
  else if seconds % 60 ≠ 0 then clock ++ ":" ++ padded 2 (seconds % 60)
  else clock

/-- `value.isoformat()`. -/
def DateTime.isoformat (d : DateTime) : String :=
  let (year, month, day) := ord2ymd (d.micros.val / microsPerDay)
  let time := d.micros.val % microsPerDay
  let seconds := time / 10 ^ 6
  let fraction := time % 10 ^ 6
  padded 4 year ++ "-" ++ padded 2 month ++ "-" ++ padded 2 day ++ "T" ++
    padded 2 (seconds / 3600) ++ ":" ++ padded 2 (seconds / 60 % 60) ++ ":" ++
    padded 2 (seconds % 60) ++
    (if fraction ≠ 0 then "." ++ padded 6 fraction else "") ++
    (match d.utcoffset with
      | none => ""
      | some offset => offsetText offset.val)

def utcOffset : { offset : Int // offset.natAbs < microsPerDay } := ⟨0, by decide⟩

/-- `(value if aware else value.replace(tzinfo=utc)).astimezone(utc)`; `none` is
the `OverflowError` of an instant outside years 1..9999. -/
def DateTime.toUtc (d : DateTime) : Option DateTime :=
  let offset : Int := match d.utcoffset with
    | none => 0
    | some offset => offset.val
  let instant := (d.micros.val : Int) - offset
  if h : 0 ≤ instant ∧ instant < maxOrdinal * microsPerDay then
    some ⟨⟨instant.toNat, by omega⟩, some utcOffset⟩
  else none

end Apcos.Source.Python
