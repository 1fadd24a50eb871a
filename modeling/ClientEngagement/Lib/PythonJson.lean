import ClientEngagement.Lib.DecimalText
import ClientEngagement.Lib.JsonAscii

/-!
# JSON as Python reads it

`json.loads` on every text, with what is Python's own: texts are code points and may hold surrogates that
stand alone, integers and floats are two types, an integer of too many digits is refused, and so is what
is nested too deep. `json.dumps` writes a list of integers and texts. It is read back as it was, but for
surrogates that met in a text: they are joined (`loads_dumps`, `joinPairs_eq_self_iff`).
-/

namespace ClientEngagement.PythonJson
open JsonText

/-! ## Texts -/

/-- A code point. -/
abbrev Point := Fin 0x110000

abbrev IsHigh (n : ℕ) : Prop := 0xd800 ≤ n ∧ n < 0xdc00

abbrev IsLow (n : ℕ) : Prop := 0xdc00 ≤ n ∧ n < 0xe000

def Point.ofChar (c : Char) : Point :=
  ⟨c.toNat, by
    have valid : c.toNat < 0xd800 ∨ 0xdfff < c.toNat ∧ c.toNat < 0x110000 := c.valid
    omega⟩

/-- The character of a code point; a surrogate is none. -/
def Point.toChar? (p : Point) : Option Char := if IsHigh p ∨ IsLow p then none else some (.ofNat p)

/-- What can be encoded: no surrogates. -/
def toChars? (text : List Point) : Option (List Char) := text.mapM Point.toChar?

/-- The code point that two surrogates stand for. -/
def joined (high low : ℕ) : Point := Fin.ofNat _ (0x10000 + (high - 0xd800) * 0x400 + (low - 0xdc00))

/-- Joins the surrogates that meet. -/
def joinPairs : List Point → List Point
  | p :: q :: rest =>
    if IsHigh p ∧ IsLow q then joined p q :: joinPairs rest else p :: joinPairs (q :: rest)
  | text => text

/-- No two surrogates of a pair meet. -/
def Apart (text : List Point) : Prop := text.IsChain fun p q : Point => ¬(IsHigh p ∧ IsLow q)

/-! ## Values -/

inductive PyValue where
  | null
  | bool (value : Bool)
  | int (value : ℤ)
  /-- The float a literal stands for. -/
  | float (literal : List Char)
  | str (text : List Point)
  | list (items : List PyValue)
  | dict (fields : List (List Point × PyValue))

/-- What the value is unpacked into, if it can be. -/
def PyValue.elements : PyValue → Option (List PyValue)
  | .list items => some items
  | .dict fields => some ((fields.map Prod.fst).eraseDups.map .str)
  | .str text => some (text.map fun p => .str [p])
  | _ => none

/-! ## Reading -/

/-- The second surrogate of a pair. -/
def readLow : List Char → Option (ℕ × List Char)
  | '\\' :: 'u' :: rest => (readHex rest).filter fun read => IsLow read.1
  | _ => none

/-- The code point after `\u`; a surrogate that meets the other one is joined to it. -/
def readUnicode (text : List Char) : Option (Point × List Char) :=
  (readHex text).map fun (unit, rest) =>
    match if IsHigh unit then readLow rest else none with
    | some (low, rest) => (joined unit low, rest)
    | none => (Fin.ofNat _ unit, rest)

/-- The characters with a short escape. -/
def escaped (c : Char) : Option Char :=
  if c = '"' ∨ c = '\\' ∨ c = '/' then some c
  else if c = 'n' then some '\n'
  else if c = 'r' then some '\r'
  else if c = 't' then some '\t'
  else if c = 'f' then some (Char.ofNat 0x0c)
  else if c = 'b' then some (Char.ofNat 0x08)
  else none

/-- What follows a backslash. -/
def readEscape : List Char → Option (Point × List Char)
  | [] => none
  | c :: rest => if c = 'u' then readUnicode rest else (escaped c).map fun d => (.ofChar d, rest)

/-- The rest of a string after its opening quote. -/
def readString : ℕ → List Char → Option (List Point × List Char)
  | 0, _ => none
  | _ + 1, [] => none
  | n + 1, c :: rest =>
    if c = '"' then some ([], rest)
    else if c = '\\' then
      (readEscape rest).bind fun (p, rest) => (readString n rest).map fun (text, rest) => (p :: text, rest)
    else if c.toNat < 0x20 then none
    else (readString n rest).map fun (text, rest) => (.ofChar c :: text, rest)

/-- The digits that an integer may have as text, by default. -/
def maxStrDigits : ℕ := 4300

/-- At least one digit, and the rest. -/
def spanDigits (text : List Char) : Option (List Char × List Char) :=
  if text.takeWhile Char.isDigit = [] then none
  else some (text.takeWhile Char.isDigit, text.dropWhile Char.isDigit)

/-- A fraction, if there is one. -/
def skipFraction : List Char → Option (List Char)
  | '.' :: rest => (spanDigits rest).map Prod.snd
  | rest => some rest

/-- An exponent, if there is one. -/
def skipExponent : List Char → Option (List Char)
  | [] => some []
  | c :: rest =>
    if c = 'e' ∨ c = 'E' then
      (spanDigits (if rest.head? = some '+' ∨ rest.head? = some '-' then rest.tail else rest)).map Prod.snd
    else some (c :: rest)

/-- A number without its sign. -/
def readUnsigned (negative : Bool) (word : List Char) : Option PyValue :=
  (spanDigits word).bind fun (digits, rest) =>
    if digits.head? = some '0' ∧ 1 < digits.length then none
    else if rest = [] then
      if digits.length ≤ maxStrDigits then
        let value : ℤ := Nat.ofDigitChars 10 digits 0
        some (.int (if negative then -value else value))
      else none
    else
      ((skipFraction rest).bind skipExponent).bind fun rest =>
        if rest = [] then some (.float (if negative then '-' :: word else word)) else none

/-- A word that is a number or the name of one. -/
def readNumeral (word : List Char) : Option PyValue :=
  if word = "NaN".toList ∨ word = "Infinity".toList ∨ word = "-Infinity".toList then some (.float word)
  else if word.head? = some '-' then readUnsigned true word.tail
  else readUnsigned false word

def readNumber (text : List Char) : Option (PyValue × List Char) :=
  (readNumeral (text.takeWhile isNumeral)).map fun value => (value, text.dropWhile isNumeral)

def readWord (word : List Char) (value : PyValue) (text : List Char) : Option (PyValue × List Char) :=
  if word <+: text then some (value, text.drop word.length) else none

mutual

/-- Reads a value, with room for so many levels of lists and objects. -/
def readValue : ℕ → ℕ → List Char → Option (PyValue × List Char)
  | 0, _, _ => none
  | _ + 1, _, [] => none
  | n + 1, room, c :: rest =>
    if c = '"' then (readString (rest.length + 1) rest).map fun (text, rest) => (.str text, rest)
    else if c = '[' then
      if room = 0 then none
      else if (skipBlank rest).head? = some ']' then some (.list [], (skipBlank rest).tail)
      else (readItems n (room - 1) (skipBlank rest)).map fun (items, rest) => (.list items, rest)
    else if c = '\x7b' then
      if room = 0 then none
      else if (skipBlank rest).head? = some '\x7d' then some (.dict [], (skipBlank rest).tail)
      else (readFields n (room - 1) (skipBlank rest)).map fun (fields, rest) => (.dict fields, rest)
    else if c = 'n' then readWord "null".toList .null (c :: rest)
    else if c = 't' then readWord "true".toList (.bool true) (c :: rest)
    else if c = 'f' then readWord "false".toList (.bool false) (c :: rest)
    else readNumber (c :: rest)

/-- At least one item, and the bracket. -/
def readItems : ℕ → ℕ → List Char → Option (List PyValue × List Char)
  | 0, _, _ => none
  | n + 1, room, text =>
    (readValue n room text).bind fun (item, rest) =>
      match skipBlank rest with
      | ',' :: rest => (readItems n room (skipBlank rest)).map fun (items, rest) => (item :: items, rest)
      | ']' :: rest => some ([item], rest)
      | _ => none

/-- At least one member, and the brace. -/
def readFields : ℕ → ℕ → List Char → Option (List (List Point × PyValue) × List Char)
  | 0, _, _ => none
  | n + 1, room, text =>
    match text with
    | '"' :: rest =>
      (readString (rest.length + 1) rest).bind fun (name, rest) =>
        match skipBlank rest with
        | ':' :: rest =>
          (readValue n room (skipBlank rest)).bind fun (value, rest) =>
            match skipBlank rest with
            | ',' :: rest =>
              (readFields n room (skipBlank rest)).map fun (fields, rest) => ((name, value) :: fields, rest)
            | '\x7d' :: rest => some ([(name, value)], rest)
            | _ => none
        | _ => none
    | _ => none

end

/-- `json.loads` of a text; one with a mark of its encoding is refused. -/
def loads (room : ℕ) (text : List Char) : Option PyValue :=
  if text.head? = some '\ufeff' then none
  else
    (readValue (2 * text.length + 1) room (skipBlank text)).bind fun (value, rest) =>
      if skipBlank rest = [] then some value else none

/-! ## Writing -/

/-- What a list is written of. -/
inductive Item where
  | int (value : ℤ)
  | str (text : List Point)

/-- A code point inside a string. -/
def writePoint (p : Point) : List Char :=
  match p.toChar? with
  | some c => ClientEngagement.escapeChar c
  | none => '\\' :: 'u' :: JsonText.hexDigits p

def writeInt (n : ℤ) : List Char := if n < 0 then '-' :: digitsOf n.natAbs else digitsOf n.natAbs

namespace Item

def write : Item → List Char
  | .int value => writeInt value
  | .str text => '"' :: (text.flatMap writePoint ++ ['"'])

/-- An integer of too many digits has no text. -/
def Writable : Item → Prop
  | .int value => (digitsOf value.natAbs).length ≤ maxStrDigits
  | .str _ => True

instance : DecidablePred Writable
  | .int _ => inferInstanceAs (Decidable (_ ≤ _))
  | .str _ => inferInstanceAs (Decidable True)

/-- What is read where the item was written. -/
def value : Item → PyValue
  | .int value => .int value
  | .str text => .str (joinPairs text)

end Item

/-- `json.dumps` of a list. -/
def dumps (items : List Item) : Option (List Char) :=
  if ∀ item ∈ items, item.Writable then some ('[' :: (separated [',', ' '] (items.map Item.write) ++ [']'])) else none

/-! ## Texts are read back -/

namespace Point

lemma toChar?_ofChar (c : Char) : (ofChar c).toChar? = some c := by
  have valid : c.toNat < 0xd800 ∨ 0xdfff < c.toNat ∧ c.toNat < 0x110000 := c.valid
  have plain : ¬(IsHigh c.toNat ∨ IsLow c.toNat) := by omega
  have same : (ofChar c).toChar? = some (.ofNat c.toNat) := if_neg plain
  rw [same, Char.ofNat_toNat]

lemma ofChar_of_toChar? {p : Point} {c : Char} (same : p.toChar? = some c) : p = ofChar c := by
  rw [toChar?] at same
  split_ifs at same with surrogate
  obtain rfl := Option.some_inj.mp same
  have small := p.isLt
  have valid : Nat.isValidChar p.val := by
    rw [Nat.isValidChar]
    omega
  apply Fin.ext
  exact ((Char.toNat_ofNat p.val).trans (if_pos valid)).symm

lemma surrogate_of_toChar? {p : Point} (no : p.toChar? = none) : IsHigh p ∨ IsLow p := by
  rw [toChar?] at no
  by_contra plain
  rw [if_neg plain] at no
  cases no

lemma writePoint_ofChar (c : Char) : writePoint (ofChar c) = ClientEngagement.escapeChar c := by
  rw [writePoint, toChar?_ofChar]

lemma writePoint_surrogate {p : Point} (surrogate : IsHigh p ∨ IsLow p) :
    writePoint p = '\\' :: 'u' :: JsonText.hexDigits p := by
  rw [writePoint, toChar?, if_pos surrogate]

end Point

lemma ofNat_val (p : Point) : Fin.ofNat 0x110000 p.val = p := Fin.ext (Nat.mod_eq_of_lt p.isLt)

lemma readLow_hexDigits {n : ℕ} (small : n < 65536) (rest : List Char) :
    readLow ('\\' :: 'u' :: (JsonText.hexDigits n ++ rest)) = if IsLow n then some (n, rest) else none := by
  rw [readLow, readHex_hexDigits small, Option.filter_some]
  simp only [decide_eq_true_eq]

/-- What is not joined to what follows is read for itself. -/
lemma readUnicode_alone {n : ℕ} (small : n < 65536) {rest : List Char} (alone : IsHigh n → readLow rest = none) :
    readUnicode (JsonText.hexDigits n ++ rest) = some (Fin.ofNat _ n, rest) := by
  have no : (if IsHigh n then readLow rest else none) = none := by
    split_ifs with high
    · exact alone high
    · rfl
  rw [readUnicode, readHex_hexDigits small, Option.map_some]
  simp only [no]

lemma readUnicode_joined {high low : ℕ} (isHigh : IsHigh high) (isLow : IsLow low) (rest : List Char) :
    readUnicode (JsonText.hexDigits high ++ '\\' :: 'u' :: (JsonText.hexDigits low ++ rest)) =
      some (joined high low, rest) := by
  have next := readLow_hexDigits (n := low) (by omega) rest
  rw [if_pos isLow] at next
  rw [readUnicode, readHex_hexDigits (by omega), Option.map_some]
  simp only [if_pos isHigh, next]

lemma readString_backslash {c : Char} {p : Point} {more rest : List Char} (n : ℕ)
    (read : readEscape (c :: more) = some (p, rest)) :
    readString (n + 1) ('\\' :: c :: more) = (readString n rest).map fun (text, rest) => (p :: text, rest) := by
  rw [readString, if_neg (by decide), if_pos rfl, read]
  rfl

/-- A written character is read back. -/
lemma readString_escapeChar (n : ℕ) (c : Char) (text : List Char) :
    readString (n + 1) (ClientEngagement.escapeChar c ++ text) =
      (readString n text).map fun (read, rest) => (.ofChar c :: read, rest) := by
  have valid : c.toNat < 0xd800 ∨ 0xdfff < c.toNat ∧ c.toNat < 0x110000 := c.valid
  rw [ClientEngagement.escapeChar]
  split_ifs with quote slash newline return_ tab feed back plain unit
  · subst quote
    exact readString_backslash n rfl
  · subst slash
    exact readString_backslash n rfl
  · subst newline
    exact readString_backslash n rfl
  · subst return_
    exact readString_backslash n rfl
  · subst tab
    exact readString_backslash n rfl
  · apply readString_backslash
    rw [← Char.ofNat_toNat c, feed]
    rfl
  · apply readString_backslash
    rw [← Char.ofNat_toNat c, back]
    rfl
  · rw [List.singleton_append, readString, if_neg quote, if_neg slash, if_neg (by omega)]
  · apply readString_backslash
    have read : readUnicode (JsonText.hexDigits c.toNat ++ text) = some (Fin.ofNat _ c.toNat, text) :=
      readUnicode_alone unit fun high => absurd high (by omega)
    have same : Fin.ofNat 0x110000 c.toNat = Point.ofChar c := Fin.ext (Nat.mod_eq_of_lt (by omega))
    rw [← same]
    exact read
  · simp only [List.append_assoc, List.cons_append, List.nil_append]
    apply readString_backslash
    have high : IsHigh (0xd800 + (c.toNat - 0x10000) / 0x400) := by omega
    have low : IsLow (0xdc00 + (c.toNat - 0x10000) % 0x400) := by omega
    have read := readUnicode_joined high low text
    have same : joined (0xd800 + (c.toNat - 0x10000) / 0x400) (0xdc00 + (c.toNat - 0x10000) % 0x400) =
        Point.ofChar c := by
      apply Fin.ext
      rw [joined, Fin.ofNat, Point.ofChar]
      simp only
      omega
    rw [← same]
    exact read

/-- A written code point is read back where it is not joined to the next. -/
lemma readString_point (n : ℕ) {p : Point} {text : List Char} (alone : IsHigh p → readLow text = none) :
    readString (n + 1) (writePoint p ++ text) = (readString n text).map fun (read, rest) => (p :: read, rest) := by
  cases char : p.toChar? with
  | some c =>
    obtain rfl := Point.ofChar_of_toChar? char
    rw [Point.writePoint_ofChar]
    exact readString_escapeChar n c text
  | none =>
    have surrogate := Point.surrogate_of_toChar? char
    rw [Point.writePoint_surrogate surrogate]
    apply readString_backslash
    have read := readUnicode_alone (n := p) (by omega) alone
    rw [ofNat_val] at read
    exact read

/-- Only the second of a pair is written so that it could be joined. -/
lemma readLow_writePoint {q : Point} (not_low : ¬IsLow q) (rest : List Char) :
    readLow (writePoint q ++ rest) = none := by
  cases char : q.toChar? with
  | some c =>
    obtain rfl := Point.ofChar_of_toChar? char
    have valid : c.toNat < 0xd800 ∨ 0xdfff < c.toNat ∧ c.toNat < 0x110000 := c.valid
    rw [Point.writePoint_ofChar, ClientEngagement.escapeChar]
    split_ifs with quote slash newline return_ tab feed back plain unit
    · rfl
    · rfl
    · rfl
    · rfl
    · rfl
    · rfl
    · rfl
    · rw [List.singleton_append, readLow]
      rintro more same
      exact slash (List.cons.inj same).1
    · exact (readLow_hexDigits unit rest).trans (if_neg (by omega))
    · simp only [List.append_assoc, List.cons_append, List.nil_append]
      exact (readLow_hexDigits (n := 0xd800 + (c.toNat - 0x10000) / 0x400) (by omega) _).trans (if_neg (by omega))
  | none =>
    have surrogate := Point.surrogate_of_toChar? char
    rw [Point.writePoint_surrogate surrogate]
    exact (readLow_hexDigits (n := q) (by omega) rest).trans (if_neg not_low)

lemma readString_points (text : List Point) (rest : List Char) {n : ℕ} (fuel : text.length < n) :
    readString n (text.flatMap writePoint ++ '"' :: rest) = some (joinPairs text, rest) := by
  induction text using joinPairs.induct generalizing n with
  | case1 p q text pair ih =>
    obtain ⟨n, rfl⟩ := Nat.exists_eq_succ_of_ne_zero (Nat.ne_zero_of_lt fuel)
    rw [List.length_cons, List.length_cons] at fuel
    have read : readEscape ('u' :: (JsonText.hexDigits p ++ '\\' :: 'u' :: (JsonText.hexDigits q ++
        (text.flatMap writePoint ++ '"' :: rest)))) = some (joined p q, text.flatMap writePoint ++ '"' :: rest) :=
      readUnicode_joined pair.1 pair.2 _
    rw [List.flatMap_cons, List.flatMap_cons, Point.writePoint_surrogate (.inl pair.1),
      Point.writePoint_surrogate (.inr pair.2), joinPairs, if_pos pair]
    simp only [List.append_assoc, List.cons_append]
    rw [readString_backslash n read, ih (by omega)]
    rfl
  | case2 p q text apart ih =>
    obtain ⟨n, rfl⟩ := Nat.exists_eq_succ_of_ne_zero (Nat.ne_zero_of_lt fuel)
    rw [List.length_cons] at fuel
    have alone (high : IsHigh p) : readLow ((q :: text).flatMap writePoint ++ '"' :: rest) = none := by
      rw [List.flatMap_cons, List.append_assoc]
      exact readLow_writePoint (fun low => apart ⟨high, low⟩) _
    rw [List.flatMap_cons, List.append_assoc, readString_point n alone, ih (by omega), joinPairs, if_neg apart]
    rfl
  | case3 text short =>
    obtain ⟨n, rfl⟩ := Nat.exists_eq_succ_of_ne_zero (Nat.ne_zero_of_lt fuel)
    rcases text with _ | ⟨p, _ | ⟨q, text⟩⟩
    · rfl
    · obtain ⟨n, rfl⟩ := Nat.exists_eq_succ_of_ne_zero (n := n) (by
        rw [List.length_singleton] at fuel
        omega)
      rw [List.flatMap_singleton, readString_point _ fun _ => rfl]
      rfl
    · exact absurd rfl (short p q text)

/-! ## What was joined -/

lemma length_joinPairs_le (text : List Point) : (joinPairs text).length ≤ text.length := by
  induction text using joinPairs.induct with
  | case1 p q text pair ih =>
    rw [joinPairs, if_pos pair]
    simp only [List.length_cons]
    omega
  | case2 p q text apart ih =>
    rw [joinPairs, if_neg apart, List.length_cons]
    exact Nat.succ_le_succ ih
  | case3 text short => rw [joinPairs.eq_2 text short]

/-- A text stays as it is where no surrogates are joined, and only there. -/
theorem joinPairs_eq_self_iff (text : List Point) : joinPairs text = text ↔ Apart text := by
  induction text using joinPairs.induct with
  | case1 p q text pair ih =>
    rw [joinPairs, if_pos pair]
    constructor
    · intro same
      have length := congrArg List.length same
      have le := length_joinPairs_le text
      simp only [List.length_cons] at length
      omega
    · intro apart
      exact absurd pair (List.isChain_cons_cons.mp apart).1
  | case2 p q text apart ih =>
    rw [joinPairs, if_neg apart, List.cons_inj_right, ih, Apart, Apart, List.isChain_cons_cons]
    exact ⟨fun chain => ⟨apart, chain⟩, And.right⟩
  | case3 text short =>
    rw [joinPairs.eq_2 text short]
    rcases text with _ | ⟨p, _ | ⟨q, text⟩⟩
    · exact ⟨fun _ => .nil, fun _ => rfl⟩
    · exact ⟨fun _ => .singleton p, fun _ => rfl⟩
    · exact absurd rfl (short p q text)

example : joinPairs [0xd83d, 0xde00, 0xd83d] = [0x1f600, 0xd83d] := by decide

/-- Texts without surrogates stay as they are. -/
lemma apart_ofChars (text : List Char) : Apart (text.map Point.ofChar) := by
  induction text with
  | nil => exact .nil
  | cons c text ih =>
    cases text with
    | nil => exact .singleton _
    | cons d text =>
      have valid : c.toNat < 0xd800 ∨ 0xdfff < c.toNat ∧ c.toNat < 0x110000 := c.valid
      apply List.isChain_cons_cons.mpr
      refine ⟨fun pair => ?_, ih⟩
      have high : IsHigh c.toNat := pair.1
      omega

lemma toChars?_ofChars (text : List Char) : toChars? (text.map Point.ofChar) = some text := by
  rw [toChars?]
  induction text with
  | nil => rfl
  | cons c text ih => rw [List.map_cons, List.mapM_cons, Point.toChar?_ofChar, ih]; rfl

/-! ## Integers are read back -/

lemma spanDigits_append {digits rest : List Char} (some_digits : digits ≠ [])
    (digit : ∀ c ∈ digits, c.isDigit = true) (stop : ∀ c ∈ rest.head?, c.isDigit = false) :
    spanDigits (digits ++ rest) = some (digits, rest) := by
  have ends : rest.takeWhile Char.isDigit = [] ∧ rest.dropWhile Char.isDigit = rest := by
    cases rest with
    | nil => exact ⟨rfl, rfl⟩
    | cons c rest =>
      have no := stop c rfl
      exact ⟨List.takeWhile_cons_of_neg (by simp [no]), List.dropWhile_cons_of_neg (by simp [no])⟩
  have whole : (digits ++ rest).takeWhile Char.isDigit = digits := by
    rw [List.takeWhile_append_of_pos digit, ends.1, List.append_nil]
  rw [spanDigits, whole, if_neg some_digits, List.dropWhile_append_of_pos digit, ends.2]

/-- Only zero is written with a zero in front. -/
lemma eq_zero_of_head_digitsOf (n : ℕ) (zero : (digitsOf n).head? = some '0') : n = 0 := by
  induction n using Nat.strong_induction_on with
  | h n ih =>
    rcases Nat.lt_or_ge n 10 with small | large
    · rw [digitsOf, Nat.toDigits_of_lt_base small] at zero
      interval_cases n <;> first | rfl | exact absurd zero (by decide)
    · rw [digitsOf, Nat.toDigits_of_base_le (by decide) large, List.head?_append_of_ne_nil _ Nat.toDigits_ne_nil] at zero
      have := ih (n / 10) (by omega) zero
      omega

lemma readUnsigned_digitsOf {n : ℕ} (short : (digitsOf n).length ≤ maxStrDigits) (negative : Bool) :
    readUnsigned negative (digitsOf n) = some (.int (if negative then -(n : ℤ) else n)) := by
  have span : spanDigits (digitsOf n ++ []) = some (digitsOf n, []) :=
    spanDigits_append (digitsOf_ne_nil n) (fun _ => isDigit_of_mem_digitsOf) nofun
  have plain : ¬((digitsOf n).head? = some '0' ∧ 1 < (digitsOf n).length) := by
    rintro ⟨zero, long⟩
    obtain rfl := eq_zero_of_head_digitsOf n zero
    exact absurd long (by decide)
  have number : Nat.ofDigitChars 10 (digitsOf n) 0 = n := Nat.ofDigitChars_ten_toDigits
  rw [List.append_nil] at span
  rw [readUnsigned, span, Option.bind_some]
  simp only
  rw [if_neg plain, if_pos trivial, if_pos short, number]

/-- How an integer begins. -/
lemma writeInt_head (n : ℤ) : ∃ c rest, writeInt n = c :: rest ∧ startsNumber c = true := by
  rw [writeInt]
  split_ifs with negative
  · exact ⟨'-', _, rfl, rfl⟩
  · obtain ⟨c, rest, eq⟩ := List.exists_cons_of_ne_nil (digitsOf_ne_nil n.natAbs)
    have digit : c.isDigit = true := isDigit_of_mem_digitsOf (n := n.natAbs) (eq ▸ List.mem_cons_self)
    exact ⟨c, rest, eq, by rw [startsNumber, digit]; rfl⟩

lemma isNumeral_of_isDigit {c : Char} (digit : c.isDigit = true) : isNumeral c = true := by
  simp [isNumeral, Char.isAlphanum, digit]

lemma isNumeral_writeInt (n : ℤ) : ∀ c ∈ writeInt n, isNumeral c = true := by
  intro c mem
  rw [writeInt] at mem
  split_ifs at mem
  · rcases List.mem_cons.mp mem with rfl | digit
    · rfl
    · exact isNumeral_of_isDigit (isDigit_of_mem_digitsOf digit)
  · exact isNumeral_of_isDigit (isDigit_of_mem_digitsOf mem)

lemma readNumeral_writeInt {n : ℤ} (short : (digitsOf n.natAbs).length ≤ maxStrDigits) :
    readNumeral (writeInt n) = some (.int n) := by
  obtain ⟨c, digits, eq⟩ := List.exists_cons_of_ne_nil (digitsOf_ne_nil n.natAbs)
  have digit : c.isDigit = true := isDigit_of_mem_digitsOf (n := n.natAbs) (eq ▸ List.mem_cons_self)
  have other (d : Char) (no : d.isDigit = false) : c ≠ d := by
    rintro rfl
    rw [digit] at no
    cases no
  rw [writeInt]
  split_ifs with negative
  · have named : ¬('-' :: digitsOf n.natAbs = "NaN".toList ∨ '-' :: digitsOf n.natAbs = "Infinity".toList ∨
        '-' :: digitsOf n.natAbs = "-Infinity".toList) := by
      rw [eq]
      rintro (same | same | same)
      · exact absurd (List.cons.inj same).1 (by decide)
      · exact absurd (List.cons.inj same).1 (by decide)
      · exact other 'I' rfl (List.cons.inj (List.cons.inj same).2).1
    rw [readNumeral, if_neg named, List.head?_cons, if_pos rfl, List.tail_cons, readUnsigned_digitsOf short, if_pos rfl]
    congr 2
    omega
  · have named : ¬(digitsOf n.natAbs = "NaN".toList ∨ digitsOf n.natAbs = "Infinity".toList ∨
        digitsOf n.natAbs = "-Infinity".toList) := by
      rw [eq]
      rintro (same | same | same)
      · exact other 'N' rfl (List.cons.inj same).1
      · exact other 'I' rfl (List.cons.inj same).1
      · exact other '-' rfl (List.cons.inj same).1
    have unsigned : (digitsOf n.natAbs).head? ≠ some '-' := by
      rw [eq]
      exact fun same => other '-' rfl (Option.some_inj.mp same)
    rw [readNumeral, if_neg named, if_neg unsigned, readUnsigned_digitsOf short, if_neg (by decide)]
    congr 2
    omega

lemma readNumber_writeInt {n : ℤ} (short : (digitsOf n.natAbs).length ≤ maxStrDigits) {rest : List Char}
    (stop : Follows rest) : readNumber (writeInt n ++ rest) = some (.int n, rest) := by
  obtain ⟨word, after⟩ := takeWhile_numeral (isNumeral_writeInt n) stop
  rw [readNumber, word, after, readNumeral_writeInt short]
  rfl

/-! ## Lists are read back -/

namespace Item

/-- How an item begins. -/
lemma write_head (item : Item) : ∃ c rest, write item = c :: rest ∧ isBlank c = false ∧ c ≠ ']' := by
  cases item with
  | int n =>
    obtain ⟨c, rest, eq, starts⟩ := writeInt_head n
    refine ⟨c, rest, eq, ?_, ?_⟩
    · rw [isBlank]
      by_contra blank
      simp only [Bool.not_eq_false, Bool.or_eq_true, decide_eq_true_eq] at blank
      rcases blank with ((rfl | rfl) | rfl) | rfl <;> exact absurd starts (by decide)
    · rintro rfl
      exact absurd starts (by decide)
  | str text => exact ⟨'"', _, rfl, by decide⟩

lemma length_le_written (text : List Point) : text.length ≤ (text.flatMap writePoint).length := by
  have one (p : Point) : 1 ≤ (writePoint p).length := by
    rw [writePoint]
    split
    · rw [ClientEngagement.escapeChar]
      split_ifs <;> simp
    · simp
  induction text with
  | nil => exact Nat.le_refl 0
  | cons p text ih =>
    have := one p
    rw [List.flatMap_cons, List.length_append, List.length_cons]
    omega

lemma readValue_write {item : Item} (writable : item.Writable) (n room : ℕ) {rest : List Char}
    (stop : Follows rest) : readValue (n + 1) room (write item ++ rest) = some (item.value, rest) := by
  cases item with
  | int k =>
    obtain ⟨c, tail, eq, starts⟩ := writeInt_head k
    have other (d : Char) (no : startsNumber d = false) : c ≠ d := by
      rintro rfl
      rw [starts] at no
      cases no
    have read := readNumber_writeInt (n := k) writable stop
    rw [write]
    rw [eq, List.cons_append] at read ⊢
    rw [readValue, if_neg (other _ (by decide)), if_neg (other _ (by decide)), if_neg (other _ (by decide)),
      if_neg (other _ (by decide)), if_neg (other _ (by decide)), if_neg (other _ (by decide)), read]
    rfl
  | str text =>
    have long := length_le_written text
    rw [write, List.cons_append, List.append_assoc, List.singleton_append, readValue, if_pos rfl,
      readString_points, Option.map_some]
    · rfl
    · rw [List.length_append]
      omega

lemma separated_cons (item next : Item) (items : List Item) :
    separated [',', ' '] ((item :: next :: items).map write) =
      write item ++ [',', ' '] ++ separated [',', ' '] ((next :: items).map write) := rfl

/-- The items begin as the first of them does. -/
lemma separated_head (item : Item) (items : List Item) :
    ∃ c rest, separated [',', ' '] ((item :: items).map write) = c :: rest ∧ isBlank c = false ∧ c ≠ ']' := by
  obtain ⟨c, rest, eq, ink, bracket⟩ := write_head item
  cases items with
  | nil => exact ⟨c, rest, eq, ink, bracket⟩
  | cons next items =>
    rw [separated_cons, eq]
    exact ⟨c, _, rfl, ink, bracket⟩

lemma readItems_separated (item : Item) (items : List Item) (writable : ∀ i ∈ item :: items, i.Writable) {n : ℕ}
    (room : ℕ) (fuel : (separated [',', ' '] ((item :: items).map write)).length < n) :
    readItems n room (separated [',', ' '] ((item :: items).map write) ++ [']']) =
      some ((item :: items).map value, []) := by
  induction items generalizing item n with
  | nil =>
    obtain ⟨c, tail, head, _⟩ := write_head item
    rw [List.map_singleton, separated] at fuel ⊢
    rw [head, List.length_cons] at fuel
    obtain ⟨n, rfl⟩ : ∃ m, n = m + 2 := ⟨n - 2, by omega⟩
    rw [readItems, readValue_write (writable item List.mem_cons_self) _ _ (follows_cons (by decide)), Option.bind_some]
    simp only [skipBlank_cons (by decide : isBlank ']' = false), List.map_singleton]
  | cons next items ih =>
    obtain ⟨c, tail, head, ink, _⟩ := separated_head next items
    have skip (more : List Char) : skipBlank (' ' :: (separated [',', ' '] ((next :: items).map write) ++ more)) =
        separated [',', ' '] ((next :: items).map write) ++ more := by
      rw [head]
      exact skipBlank_cons ink
    rw [separated_cons, List.length_append, List.length_append, List.length_cons, List.length_singleton] at fuel
    obtain ⟨n, rfl⟩ : ∃ m, n = m + 2 := ⟨n - 2, by omega⟩
    rw [separated_cons, List.append_assoc, List.append_assoc, List.cons_append, List.singleton_append, readItems,
      readValue_write (writable item List.mem_cons_self) _ _ (follows_cons (by decide)), Option.bind_some]
    simp only [skipBlank_cons (by decide : isBlank ',' = false)]
    rw [skip, ih next (fun i mem => writable i (List.mem_cons_of_mem _ mem)) (by omega), Option.map_some]
    rfl

end Item

/-- A written list is what its text is read as, but for surrogates that met. -/
theorem loads_dumps {items : List Item} {text : List Char} (written : dumps items = some text) {room : ℕ}
    (pos : 0 < room) : loads room text = some (.list (items.map Item.value)) := by
  rw [dumps] at written
  split_ifs at written with writable
  obtain rfl := Option.some_inj.mp written
  obtain ⟨room, rfl⟩ := Nat.exists_eq_succ_of_ne_zero (Nat.ne_of_gt pos)
  rw [loads, List.head?_cons, if_neg (by decide), skipBlank_cons (by decide), readValue, if_neg (by decide),
    if_pos rfl, if_neg (Nat.succ_ne_zero room)]
  cases items with
  | nil => rfl
  | cons item items =>
    obtain ⟨c, tail, head, ink, bracket⟩ := Item.separated_head item items
    have open_ : (separated [',', ' '] ((item :: items).map Item.write) ++ [']']).head? ≠ some ']' := by
      rw [head]
      exact fun same => bracket (Option.some_inj.mp same)
    have skip : skipBlank (separated [',', ' '] ((item :: items).map Item.write) ++ [']']) =
        separated [',', ' '] ((item :: items).map Item.write) ++ [']'] := by
      rw [head]
      exact skipBlank_cons ink
    rw [skip, if_neg open_, Item.readItems_separated item items writable]
    · rfl
    · rw [List.length_cons, List.length_append]
      omega

end ClientEngagement.PythonJson
