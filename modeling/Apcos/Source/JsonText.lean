import Apcos.Source.Python.Text

/-!
# JSON text of the two encoders

`json.dumps(message, separators=(",", ":"))` (rust_bridge.py:888-893) and
`serde_json::to_string` (ipc.rs:304-307) write the same compact layout and
differ in the escapes: Python writes ASCII only, with surrogate pairs outside
the basic plane; serde_json escapes quotes, backslashes and control characters.
The two readers are parameters (`JsonReaders`).
-/
namespace Apcos.Source.JsonText

open Apcos.Source.Python (Value Dict PyFloat)

def hexDigit (n : Nat) : Char :=
  if n < 10 then Char.ofNat (48 + n) else Char.ofNat (87 + n)

def unicodeEscape (n : Nat) : List Char :=
  ['\\', 'u', hexDigit (n / 4096 % 16), hexDigit (n / 256 % 16), hexDigit (n / 16 % 16),
    hexDigit (n % 16)]

/-- Two-character escapes shared by both encoders. -/
def shortEscape (n : Nat) : Option Char :=
  if n = 34 then some '\"'
  else if n = 92 then some '\\'
  else if n = 8 then some 'b'
  else if n = 9 then some 't'
  else if n = 10 then some 'n'
  else if n = 12 then some 'f'
  else if n = 13 then some 'r'
  else none

/-- `json.dumps` with `ensure_ascii`. -/
def pythonEscape (c : Char) : List Char :=
  let n := c.toNat
  match shortEscape n with
  | some e => ['\\', e]
  | none =>
    if 32 ≤ n ∧ n < 127 then [c]
    else if n < 0x10000 then unicodeEscape n
    else
      unicodeEscape (0xd800 + (n - 0x10000) / 1024) ++ unicodeEscape (0xdc00 + (n - 0x10000) % 1024)

def serdeEscape (c : Char) : List Char :=
  let n := c.toNat
  match shortEscape n with
  | some e => ['\\', e]
  | none => if n < 32 then unicodeEscape n else [c]

def quoted (escape : Char → List Char) (s : String) : List Char :=
  '\"' :: s.toList.flatMap escape ++ ['\"']

mutual
/-- Compact JSON text of a value. Floats are printed by the parameter; the two
kinds that are no JSON data make `json.dumps` raise `TypeError` and are not
values of serde_json, so they have no text. -/
def compact (escape : Char → List Char) (floatText : PyFloat → List Char) :
    Value → Option (List Char)
  | .null => some "null".toList
  | .bool true => some "true".toList
  | .bool false => some "false".toList
  | .int n => some (toString n).toList
  | .float x => some (floatText x)
  | .str s => some (quoted escape s)
  | .list items => (compactItems escape floatText items).map fun text => '[' :: text ++ [']']
  | .dict entries =>
    (compactEntries escape floatText entries).map fun text => '\x7b' :: text ++ ['\x7d']
  | .datetime _ => none
  | .object _ => none

def compactItems (escape : Char → List Char) (floatText : PyFloat → List Char) :
    List Value → Option (List Char)
  | [] => some []
  | [v] => compact escape floatText v
  | v :: w :: rest => do
    let head ← compact escape floatText v
    let tail ← compactItems escape floatText (w :: rest)
    return head ++ ',' :: tail

def compactEntries (escape : Char → List Char) (floatText : PyFloat → List Char) :
    List (String × Value) → Option (List Char)
  | [] => some []
  | [(key, v)] => (compact escape floatText v).map fun text => quoted escape key ++ ':' :: text
  | (key, v) :: entry :: rest => do
    let head ← compact escape floatText v
    let tail ← compactEntries escape floatText (entry :: rest)
    return quoted escape key ++ ':' :: head ++ ',' :: tail
end

/-- The two JSON readers: `json.loads` (`none` is `JSONDecodeError`) and
serde_json's reader into a value whose entries keep the order of the text. A
typed read sees every member, so what `fromStr` returns keeps repeated members
where a struct or a variant is expected; a part read into `serde_json::Value`
has the last of them only, as a Python dict has. -/
structure JsonReaders where
  loads : String → Option Value
  fromStr : String → Option Value
  floatText : PyFloat → List Char

/-- `json.dumps(value, separators=(",", ":"))`; an integer beyond the digit limit raises. -/
def dumps (json : JsonReaders) (v : Value) : Option String :=
  if v.printable then (compact pythonEscape json.floatText v).map String.ofList else none

/-- `serde_json::to_string`. -/
def toJsonString (json : JsonReaders) (v : Value) : Option String :=
  (compact serdeEscape json.floatText v).map String.ofList

/-- Both sides write the text and a newline (rust_bridge.py:889-893, ipc.rs:152-157). -/
def asLine (text : String) : String := text ++ "\n"

/-! ## Which values have a text -/

mutual
/-- No part of the value is a `datetime` or an anonymous object. -/
def isData : Value → Bool
  | .list items => itemsData items
  | .dict entries => entriesData entries
  | .datetime _ => false
  | .object _ => false
  | _ => true

def itemsData : List Value → Bool
  | [] => true
  | v :: rest => isData v && itemsData rest

def entriesData : List (String × Value) → Bool
  | [] => true
  | (_, v) :: rest => isData v && entriesData rest
end

mutual
/-- Data has a compact text. -/
theorem compact_written (escape : Char → List Char) (floatText : PyFloat → List Char) :
    ∀ v : Value, isData v = true → ∃ text, compact escape floatText v = some text
  | .null, _ => ⟨_, rfl⟩
  | .bool true, _ => ⟨_, rfl⟩
  | .bool false, _ => ⟨_, rfl⟩
  | .int _, _ => ⟨_, rfl⟩
  | .float _, _ => ⟨_, rfl⟩
  | .str _, _ => ⟨_, rfl⟩
  | .list items, data => by
    obtain ⟨inner, written⟩ := compactItems_written escape floatText items data
    rw [compact, written]
    exact ⟨_, rfl⟩
  | .dict entries, data => by
    obtain ⟨inner, written⟩ := compactEntries_written escape floatText entries data
    rw [compact, written]
    exact ⟨_, rfl⟩
  | .datetime _, data => by cases data
  | .object _, data => by cases data

theorem compactItems_written (escape : Char → List Char) (floatText : PyFloat → List Char) :
    ∀ items : List Value, itemsData items = true →
      ∃ text, compactItems escape floatText items = some text
  | [], _ => ⟨_, rfl⟩
  | [v], data => by
    rw [itemsData, Bool.and_eq_true] at data
    exact compact_written escape floatText v data.1
  | v :: w :: rest, data => by
    rw [itemsData, Bool.and_eq_true] at data
    obtain ⟨head, headText⟩ := compact_written escape floatText v data.1
    obtain ⟨tail, tailText⟩ := compactItems_written escape floatText (w :: rest) data.2
    rw [compactItems, headText, tailText]
    exact ⟨_, rfl⟩

theorem compactEntries_written (escape : Char → List Char) (floatText : PyFloat → List Char) :
    ∀ entries : List (String × Value), entriesData entries = true →
      ∃ text, compactEntries escape floatText entries = some text
  | [], _ => ⟨_, rfl⟩
  | [(key, v)], data => by
    rw [entriesData, Bool.and_eq_true] at data
    obtain ⟨inner, innerText⟩ := compact_written escape floatText v data.1
    rw [compactEntries, innerText]
    exact ⟨_, rfl⟩
  | (key, v) :: entry :: rest, data => by
    rw [entriesData, Bool.and_eq_true] at data
    obtain ⟨head, headText⟩ := compact_written escape floatText v data.1
    obtain ⟨tail, tailText⟩ := compactEntries_written escape floatText (entry :: rest) data.2
    rw [compactEntries, headText, tailText]
    exact ⟨_, rfl⟩
end

theorem toJsonString_written (json : JsonReaders) {v : Value} (data : isData v = true) :
    ∃ text, toJsonString json v = some text := by
  obtain ⟨cs, body⟩ := compact_written serdeEscape json.floatText v data
  rw [toJsonString, body]
  exact ⟨_, rfl⟩

theorem dumps_written (json : JsonReaders) {v : Value} (data : isData v = true)
    (printable : v.printable = true) : ∃ text, dumps json v = some text := by
  obtain ⟨cs, body⟩ := compact_written pythonEscape json.floatText v data
  rw [dumps, if_pos printable, body]
  exact ⟨_, rfl⟩

/-! ## Length of serde_json's text -/

/-- UTF-8 bytes of the characters. -/
def byteCount (cs : List Char) : Nat := (cs.map Char.utf8Size).sum

@[simp] theorem byteCount_nil : byteCount [] = 0 := rfl

@[simp] theorem byteCount_cons (c : Char) (cs : List Char) :
    byteCount (c :: cs) = c.utf8Size + byteCount cs := rfl

@[simp] theorem byteCount_append (xs ys : List Char) :
    byteCount (xs ++ ys) = byteCount xs + byteCount ys := by
  simp [byteCount]

theorem utf8ByteSize_ofList (cs : List Char) : (String.ofList cs).utf8ByteSize = byteCount cs := by
  induction cs with
  | nil => rfl
  | cons c cs ih =>
    have split : String.ofList (c :: cs) = String.singleton c ++ String.ofList cs := by
      rw [← String.toList_inj]
      simp
    rw [split, String.utf8ByteSize_append, String.utf8ByteSize_singleton, ih, byteCount_cons]

theorem byteCount_toList (s : String) : byteCount s.toList = s.utf8ByteSize := by
  rw [← utf8ByteSize_ofList, String.ofList_toList]

theorem byteCount_le (cs : List Char) : byteCount cs ≤ 4 * cs.length := by
  induction cs with
  | nil => exact Nat.le_refl 0
  | cons c cs ih =>
    have width := c.utf8Size_le_four
    rw [byteCount_cons, List.length_cons]
    omega

theorem utf8Size_hexDigit (n : Nat) (digit : n < 16) : (hexDigit n).utf8Size = 1 := by
  have all : ∀ k : Fin 16, (hexDigit k.val).utf8Size = 1 := by decide
  exact all ⟨n, digit⟩

theorem byteCount_unicodeEscape (n : Nat) : byteCount (unicodeEscape n) = 6 := by
  have digit (k : Nat) : (hexDigit (k % 16)).utf8Size = 1 :=
    utf8Size_hexDigit (k % 16) (Nat.mod_lt k (by decide))
  simp only [unicodeEscape, byteCount_cons, byteCount_nil, digit]
  decide

theorem utf8Size_shortEscape {n : Nat} {e : Char} (short : shortEscape n = some e) :
    e.utf8Size = 1 := by
  unfold shortEscape at short
  split_ifs at short <;> cases short <;> decide

/-- No escape is longer than six bytes for each byte of its character. -/
theorem byteCount_serdeEscape (c : Char) : byteCount (serdeEscape c) ≤ 6 * c.utf8Size := by
  have positive := c.utf8Size_pos
  simp only [serdeEscape]
  split
  · rename_i e short
    have width := utf8Size_shortEscape short
    have slash : ('\\' : Char).utf8Size = 1 := by decide
    simp only [byteCount_cons, byteCount_nil]
    omega
  · split
    · rw [byteCount_unicodeEscape]
      omega
    · simp only [byteCount_cons, byteCount_nil]
      omega

theorem byteCount_escaped (cs : List Char) :
    byteCount (cs.flatMap serdeEscape) ≤ 6 * byteCount cs := by
  induction cs with
  | nil => exact Nat.le_refl 0
  | cons c cs ih =>
    have head := byteCount_serdeEscape c
    rw [List.flatMap_cons, byteCount_append, byteCount_cons]
    omega

theorem byteCount_quoted (s : String) : byteCount (quoted serdeEscape s) ≤ 6 * s.utf8ByteSize + 2 := by
  have escaped := byteCount_escaped s.toList
  have quote : ('\"' : Char).utf8Size = 1 := by decide
  rw [byteCount_toList] at escaped
  simp only [quoted, byteCount_cons, byteCount_append, byteCount_nil, List.cons_append, quote]
  omega

mutual
/-- A bound on the bytes of the text serde_json writes. -/
def textBound (floatText : PyFloat → List Char) : Value → Nat
  | .null => 4
  | .bool _ => 5
  | .int n => byteCount (toString n).toList
  | .float x => byteCount (floatText x)
  | .str s => 6 * s.utf8ByteSize + 2
  | .list items => 2 + itemsBound floatText items
  | .dict entries => 2 + entriesBound floatText entries
  | .datetime _ => 0
  | .object _ => 0

def itemsBound (floatText : PyFloat → List Char) : List Value → Nat
  | [] => 0
  | v :: rest => textBound floatText v + 1 + itemsBound floatText rest

def entriesBound (floatText : PyFloat → List Char) : List (String × Value) → Nat
  | [] => 0
  | (key, v) :: rest =>
    6 * key.utf8ByteSize + textBound floatText v + 4 + entriesBound floatText rest
end

mutual
/-- A bound on the bytes of a compact text, by recursion over the value. -/
theorem compact_bound (floatText : PyFloat → List Char) :
    ∀ (v : Value) (text : List Char), compact serdeEscape floatText v = some text →
      byteCount text ≤ textBound floatText v
  | .null, text, written => by
    cases written
    exact (by decide : byteCount "null".toList ≤ 4)
  | .bool true, text, written => by
    cases written
    exact (by decide : byteCount "true".toList ≤ 5)
  | .bool false, text, written => by
    cases written
    exact (by decide : byteCount "false".toList ≤ 5)
  | .int n, text, written => by
    cases written
    exact Nat.le_refl _
  | .float x, text, written => by
    cases written
    exact Nat.le_refl _
  | .str s, text, written => by
    cases written
    exact byteCount_quoted s
  | .list items, text, written => by
    rw [compact, Option.map_eq_some_iff] at written
    obtain ⟨inner, items_text, rfl⟩ := written
    have bound := compactItems_bound floatText items inner items_text
    have brackets : ('[' : Char).utf8Size = 1 ∧ (']' : Char).utf8Size = 1 := by decide
    simp only [byteCount_cons, byteCount_append, byteCount_nil, List.cons_append, textBound]
    omega
  | .dict entries, text, written => by
    rw [compact, Option.map_eq_some_iff] at written
    obtain ⟨inner, entries_text, rfl⟩ := written
    have bound := compactEntries_bound floatText entries inner entries_text
    have braces : ('\x7b' : Char).utf8Size = 1 ∧ ('\x7d' : Char).utf8Size = 1 := by decide
    simp only [byteCount_cons, byteCount_append, byteCount_nil, List.cons_append, textBound]
    omega
  | .datetime _, text, written => by cases written
  | .object _, text, written => by cases written

theorem compactItems_bound (floatText : PyFloat → List Char) :
    ∀ (items : List Value) (text : List Char), compactItems serdeEscape floatText items = some text →
      byteCount text ≤ itemsBound floatText items
  | [], text, written => by
    cases written
    exact Nat.le_refl 0
  | [v], text, written => by
    have bound := compact_bound floatText v text written
    simp only [itemsBound]
    omega
  | v :: w :: rest, text, written => by
    simp only [compactItems, Option.bind_eq_bind, Option.bind_eq_some_iff,
      Option.pure_def, Option.some.injEq] at written
    obtain ⟨head, headText, tail, tailText, rfl⟩ := written
    have headBound := compact_bound floatText v head headText
    have tailBound := compactItems_bound floatText (w :: rest) tail tailText
    have comma : (',' : Char).utf8Size = 1 := by decide
    rw [itemsBound, byteCount_append, byteCount_cons]
    omega

theorem compactEntries_bound (floatText : PyFloat → List Char) :
    ∀ (entries : List (String × Value)) (text : List Char),
      compactEntries serdeEscape floatText entries = some text →
      byteCount text ≤ entriesBound floatText entries
  | [], text, written => by
    cases written
    exact Nat.le_refl 0
  | [(key, v)], text, written => by
    rw [compactEntries, Option.map_eq_some_iff] at written
    obtain ⟨inner, innerText, rfl⟩ := written
    have bound := compact_bound floatText v inner innerText
    have keyBound := byteCount_quoted key
    have colon : (':' : Char).utf8Size = 1 := by decide
    rw [byteCount_append, byteCount_cons]
    simp only [entriesBound]
    omega
  | (key, v) :: entry :: rest, text, written => by
    simp only [compactEntries, Option.bind_eq_bind, Option.bind_eq_some_iff,
      Option.pure_def, Option.some.injEq] at written
    obtain ⟨head, headText, tail, tailText, rfl⟩ := written
    have headBound := compact_bound floatText v head headText
    have tailBound := compactEntries_bound floatText (entry :: rest) tail tailText
    have keyBound := byteCount_quoted key
    have marks : (',' : Char).utf8Size = 1 ∧ (':' : Char).utf8Size = 1 := by decide
    rw [entriesBound, byteCount_append, byteCount_append, byteCount_cons, byteCount_cons]
    omega
end

theorem toJsonString_bound {json : JsonReaders} {v : Value} {text : String}
    (written : toJsonString json v = some text) :
    text.utf8ByteSize ≤ textBound json.floatText v := by
  rw [toJsonString, Option.map_eq_some_iff] at written
  obtain ⟨cs, body, rfl⟩ := written
  rw [utf8ByteSize_ofList]
  exact compact_bound json.floatText v cs body

end Apcos.Source.JsonText
