import Mathlib

/-!
# Base64 in the URL-safe alphabet

Three bytes are four characters, and `=` fills the last four. The decoder skips what is not in the
alphabet, takes `+` and `/` beside `-` and `_`, and stops where enough `=` end a group. What was encoded
is decoded (`decode_encode`).
-/

namespace ClientEngagement.Base64

def alphabet : List Char :=
  "ABCDEFGHIJKLMNOPQRSTUVWXYZabcdefghijklmnopqrstuvwxyz0123456789-_".toList

/-- The character of six bits. -/
def digit (n : ℕ) : Char := alphabet.getD n 'A'

/-- The six bits of a character. -/
def value (c : Char) : Option ℕ :=
  if c = '+' then some 62
  else if c = '/' then some 63
  else alphabet.findIdx? (· = c)

def encode : List UInt8 → List Char
  | a :: b :: c :: rest =>
    digit (a.toNat / 4) :: digit (a.toNat % 4 * 16 + b.toNat / 16) ::
      digit (b.toNat % 16 * 4 + c.toNat / 64) :: digit (c.toNat % 64) :: encode rest
  | [a, b] => [digit (a.toNat / 4), digit (a.toNat % 4 * 16 + b.toNat / 16), digit (b.toNat % 16 * 4), '=']
  | [a] => [digit (a.toNat / 4), digit (a.toNat % 4 * 16), '=', '=']
  | [] => []

/-- Reads on, `quad` characters into a group: `left` holds the bits of them that are no whole byte yet. -/
def scan : ℕ → ℕ → ℕ → List Char → Option (List UInt8)
  | quad, _, _, [] => if quad = 0 then some [] else none
  | quad, left, pads, c :: rest =>
    if c = '=' then
      if 2 ≤ quad then
        if 4 ≤ quad + (pads + 1) then some [] else scan quad left (pads + 1) rest
      else scan quad left pads rest
    else
      match value c with
      | none => scan quad left pads rest
      | some v =>
        match quad with
        | 0 => scan 1 v 0 rest
        | 1 => (scan 2 (v % 16) 0 rest).map (.ofNat (left * 4 + v / 16) :: ·)
        | 2 => (scan 3 (v % 4) 0 rest).map (.ofNat (left * 16 + v / 4) :: ·)
        | _ => (scan 0 0 0 rest).map (.ofNat (left * 64 + v) :: ·)

def decode (text : List Char) : Option (List UInt8) := scan 0 0 0 text

lemma scan_cons (quad left pads : ℕ) (c : Char) (rest : List Char) :
    scan quad left pads (c :: rest) =
      if c = '=' then
        if 2 ≤ quad then
          if 4 ≤ quad + (pads + 1) then some [] else scan quad left (pads + 1) rest
        else scan quad left pads rest
      else
        match value c with
        | none => scan quad left pads rest
        | some v =>
          match quad with
          | 0 => scan 1 v 0 rest
          | 1 => (scan 2 (v % 16) 0 rest).map (.ofNat (left * 4 + v / 16) :: ·)
          | 2 => (scan 3 (v % 4) 0 rest).map (.ofNat (left * 16 + v / 4) :: ·)
          | _ => (scan 0 0 0 rest).map (.ofNat (left * 64 + v) :: ·) := rfl

lemma alphabet_eq : alphabet = ['A', 'B', 'C', 'D', 'E', 'F', 'G', 'H', 'I', 'J', 'K', 'L', 'M', 'N', 'O', 'P', 'Q',
    'R', 'S', 'T', 'U', 'V', 'W', 'X', 'Y', 'Z', 'a', 'b', 'c', 'd', 'e', 'f', 'g', 'h', 'i', 'j', 'k', 'l', 'm', 'n',
    'o', 'p', 'q', 'r', 's', 't', 'u', 'v', 'w', 'x', 'y', 'z', '0', '1', '2', '3', '4', '5', '6', '7', '8', '9', '-',
    '_'] := String.toList_ofList

lemma length_alphabet : alphabet.length = 64 := by
  rw [alphabet_eq]
  rfl

lemma nodup_alphabet : alphabet.Nodup := by
  refine List.Nodup.of_map Char.toNat ?_
  rw [alphabet_eq]
  decide

lemma ne_of_mem_alphabet {c : Char} (mem : c ∈ alphabet) : c ≠ '+' ∧ c ≠ '/' ∧ c ≠ '=' := by
  rw [alphabet_eq] at mem
  refine ⟨?_, ?_, ?_⟩ <;> rintro rfl <;> simp at mem

section Digit

variable (n : ℕ) (small : n < 64)
include small

lemma lt_length_alphabet : n < alphabet.length := length_alphabet ▸ small

lemma digit_eq : digit n = alphabet.get ⟨n, lt_length_alphabet n small⟩ := List.getD_eq_getElem _ _ _

lemma digit_mem : digit n ∈ alphabet := by
  rw [digit_eq n small]
  exact List.get_mem _ _

lemma value_digit : value (digit n) = some n := by
  obtain ⟨plus, slash, -⟩ := ne_of_mem_alphabet (digit_mem n small)
  rw [value, if_neg plus, if_neg slash, List.findIdx?_eq_some_iff_getElem]
  refine ⟨lt_length_alphabet n small, decide_eq_true (digit_eq n small).symm, fun j earlier => ?_⟩
  simp only [digit_eq n small, decide_eq_true_eq]
  exact fun same => earlier.ne ((List.Nodup.getElem_inj_iff nodup_alphabet).mp same)

lemma digit_ne_pad : digit n ≠ '=' := (ne_of_mem_alphabet (digit_mem n small)).2.2

end Digit

section Digits

variable {n : ℕ} (small : n < 64) (left pads : ℕ) (rest : List Char)
include small

lemma scan_first : scan 0 left pads (digit n :: rest) = scan 1 n 0 rest := by
  rw [scan_cons, if_neg (digit_ne_pad n small), value_digit n small]
  rfl

lemma scan_second : scan 1 left pads (digit n :: rest) =
    (scan 2 (n % 16) 0 rest).map (.ofNat (left * 4 + n / 16) :: ·) := by
  rw [scan_cons, if_neg (digit_ne_pad n small), value_digit n small]
  rfl

lemma scan_third : scan 2 left pads (digit n :: rest) =
    (scan 3 (n % 4) 0 rest).map (.ofNat (left * 16 + n / 4) :: ·) := by
  rw [scan_cons, if_neg (digit_ne_pad n small), value_digit n small]
  rfl

lemma scan_fourth : scan 3 left pads (digit n :: rest) =
    (scan 0 0 0 rest).map (.ofNat (left * 64 + n) :: ·) := by
  rw [scan_cons, if_neg (digit_ne_pad n small), value_digit n small]
  rfl

end Digits

lemma ofNat_eq {n : ℕ} {a : UInt8} (h : n = a.toNat) : UInt8.ofNat n = a := by
  rw [h]
  exact UInt8.ofNat_toNat

/-- What was encoded is decoded. -/
theorem decode_encode : ∀ bytes : List UInt8, decode (encode bytes) = some bytes
  | [] => rfl
  | [a] => by
    have small := a.toNat_lt
    rw [decode, encode, scan_first (by omega), scan_second (by omega),
      ofNat_eq (a := a) (by omega)]
    rfl
  | [a, b] => by
    have smallA := a.toNat_lt
    have smallB := b.toNat_lt
    rw [decode, encode, scan_first (by omega), scan_second (by omega), scan_third (by omega),
      ofNat_eq (a := a) (by omega), ofNat_eq (a := b) (by omega)]
    rfl
  | a :: b :: c :: rest => by
    have smallA := a.toNat_lt
    have smallB := b.toNat_lt
    have smallC := c.toNat_lt
    have ih : scan 0 0 0 (encode rest) = some rest := decode_encode rest
    rw [decode, encode, scan_first (by omega), scan_second (by omega), scan_third (by omega),
      scan_fourth (by omega), ih, ofNat_eq (a := a) (by omega), ofNat_eq (a := b) (by omega),
      ofNat_eq (a := c) (by omega)]
    rfl

end ClientEngagement.Base64
