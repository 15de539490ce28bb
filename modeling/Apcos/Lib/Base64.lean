import Mathlib.Tactic.Common

/-!
# Base64

The encoder of RFC 4648 with padding and a lenient decoder: characters outside
the alphabet are skipped, padding that cannot end a quantum is skipped, and
reading stops at the padding that completes one. The decoder keeps the position
in the quantum, the bits left over from the previous character and the number
of padding characters seen.
-/
namespace Apcos.Lib.Base64

/-- Character of a six-bit value. -/
def character (v : Nat) : Char :=
  if v < 26 then Char.ofNat (65 + v)
  else if v < 52 then Char.ofNat (71 + v)
  else if v < 62 then Char.ofNat (v - 4)
  else if v = 62 then '+'
  else '/'

def sextet (c : Char) : Option Nat :=
  let n := c.toNat
  if 65 ≤ n ∧ n ≤ 90 then some (n - 65)
  else if 97 ≤ n ∧ n ≤ 122 then some (n - 71)
  else if 48 ≤ n ∧ n ≤ 57 then some (n + 4)
  else if n = 43 then some 62
  else if n = 47 then some 63
  else none

def encode : List UInt8 → List Char
  | [] => []
  | [a] => [character (a.toNat / 4), character (a.toNat % 4 * 16), '=', '=']
  | [a, b] =>
    [character (a.toNat / 4), character (a.toNat % 4 * 16 + b.toNat / 16),
      character (b.toNat % 16 * 4), '=']
  | a :: b :: c :: rest =>
    character (a.toNat / 4) :: character (a.toNat % 4 * 16 + b.toNat / 16) ::
      character (b.toNat % 16 * 4 + c.toNat / 64) :: character (c.toNat % 64) :: encode rest

/-- `none` is text that ends inside a quantum without its padding. -/
def decodeFrom : Fin 4 → Nat → Nat → List Char → Option (List UInt8)
  | position, _, _, [] => if position = 0 then some [] else none
  | position, left, pads, c :: rest =>
    if c = '=' then
      if 2 ≤ position.val then
        (if 4 ≤ position.val + (pads + 1) then some [] else decodeFrom position left (pads + 1) rest)
      else decodeFrom position left pads rest
    else
      match sextet c with
      | none => decodeFrom position left pads rest
      | some v =>
        match position with
        | 0 => decodeFrom 1 v 0 rest
        | 1 => (decodeFrom 2 (v % 16) 0 rest).map (UInt8.ofNat (left * 4 + v / 16) :: ·)
        | 2 => (decodeFrom 3 (v % 4) 0 rest).map (UInt8.ofNat (left * 16 + v / 4) :: ·)
        | 3 => (decodeFrom 0 0 0 rest).map (UInt8.ofNat (left * 64 + v) :: ·)

def decode (text : List Char) : Option (List UInt8) := decodeFrom 0 0 0 text

theorem character_ne_pad : ∀ v < 64, character v ≠ '=' := by decide

theorem sextet_character : ∀ v < 64, sextet (character v) = some v := by decide

theorem decodeFrom_zero (v pads : Nat) (bound : v < 64) (left : Nat) (rest : List Char) :
    decodeFrom 0 left pads (character v :: rest) = decodeFrom 1 v 0 rest := by
  simp only [decodeFrom, if_neg (character_ne_pad v bound), sextet_character v bound]

theorem decodeFrom_one (v pads : Nat) (bound : v < 64) (left : Nat) (rest : List Char) :
    decodeFrom 1 left pads (character v :: rest) =
      (decodeFrom 2 (v % 16) 0 rest).map (UInt8.ofNat (left * 4 + v / 16) :: ·) := by
  simp only [decodeFrom, if_neg (character_ne_pad v bound), sextet_character v bound]

theorem decodeFrom_two (v pads : Nat) (bound : v < 64) (left : Nat) (rest : List Char) :
    decodeFrom 2 left pads (character v :: rest) =
      (decodeFrom 3 (v % 4) 0 rest).map (UInt8.ofNat (left * 16 + v / 4) :: ·) := by
  simp only [decodeFrom, if_neg (character_ne_pad v bound), sextet_character v bound]

theorem decodeFrom_three (v pads : Nat) (bound : v < 64) (left : Nat) (rest : List Char) :
    decodeFrom 3 left pads (character v :: rest) =
      (decodeFrom 0 0 0 rest).map (UInt8.ofNat (left * 64 + v) :: ·) := by
  simp only [decodeFrom, if_neg (character_ne_pad v bound), sextet_character v bound]

theorem decodeFrom_padding_two (left : Nat) : decodeFrom 2 left 0 ['=', '='] = some [] := rfl

theorem decodeFrom_padding_one (left : Nat) : decodeFrom 3 left 0 ['='] = some [] := rfl

theorem ofNat_eq (a : UInt8) (n : Nat) (h : n = a.toNat) : UInt8.ofNat n = a := by
  rw [h, UInt8.ofNat_toNat]

/-- Decoding an encoded byte string gives it back. -/
theorem decode_encode (bytes : List UInt8) : decode (encode bytes) = some bytes := by
  unfold decode
  induction bytes using encode.induct with
  | case1 => rfl
  | case2 a =>
    have ha := a.toNat_lt
    rw [encode, decodeFrom_zero _ _ (by omega), decodeFrom_one _ _ (by omega),
      decodeFrom_padding_two, Option.map_some, ofNat_eq a _ (by omega)]
  | case3 a b =>
    have ha := a.toNat_lt
    have hb := b.toNat_lt
    rw [encode, decodeFrom_zero _ _ (by omega), decodeFrom_one _ _ (by omega),
      decodeFrom_two _ _ (by omega), decodeFrom_padding_one, Option.map_some, Option.map_some,
      ofNat_eq a _ (by omega), ofNat_eq b _ (by omega)]
  | case4 a b c rest ih =>
    have ha := a.toNat_lt
    have hb := b.toNat_lt
    have hc := c.toNat_lt
    rw [encode, decodeFrom_zero _ _ (by omega), decodeFrom_one _ _ (by omega),
      decodeFrom_two _ _ (by omega), decodeFrom_three _ _ (by omega), ih, Option.map_some,
      Option.map_some, Option.map_some, ofNat_eq a _ (by omega), ofNat_eq b _ (by omega),
      ofNat_eq c _ (by omega)]

/-- Encoded text uses the alphabet and the padding character only. -/
theorem mem_encode (bytes : List UInt8) (c : Char) (member : c ∈ encode bytes) :
    c = '=' ∨ ∃ v < 64, c = character v := by
  induction bytes using encode.induct with
  | case1 => cases member
  | case2 a =>
    have ha := a.toNat_lt
    simp only [encode, List.mem_cons, List.not_mem_nil, or_false] at member
    rcases member with h | h | h | h
    · exact Or.inr ⟨_, by omega, h⟩
    · exact Or.inr ⟨_, by omega, h⟩
    · exact Or.inl h
    · exact Or.inl h
  | case3 a b =>
    have ha := a.toNat_lt
    have hb := b.toNat_lt
    simp only [encode, List.mem_cons, List.not_mem_nil, or_false] at member
    rcases member with h | h | h | h
    · exact Or.inr ⟨_, by omega, h⟩
    · exact Or.inr ⟨_, by omega, h⟩
    · exact Or.inr ⟨_, by omega, h⟩
    · exact Or.inl h
  | case4 a b d rest ih =>
    have ha := a.toNat_lt
    have hb := b.toNat_lt
    have hd := d.toNat_lt
    simp only [encode, List.mem_cons] at member
    rcases member with h | h | h | h | h
    · exact Or.inr ⟨_, by omega, h⟩
    · exact Or.inr ⟨_, by omega, h⟩
    · exact Or.inr ⟨_, by omega, h⟩
    · exact Or.inr ⟨_, by omega, h⟩
    · exact ih h

end Apcos.Lib.Base64
