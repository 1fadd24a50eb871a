import Mathlib

/-!
# JSON text

JSON values over any kind of number, the compact text of a value (`render`) and the reader of JSON text
(`loads`), which allows blanks between tokens, refuses control characters in strings and takes surrogate
pairs together. A number is printed and read by a `NumberFormat`. What was rendered is read back
(`loads_render`).
-/

namespace ClientEngagement

/-- A JSON value; an object is the list of its members. -/
inductive JsonValue (ν : Type) where
  | null
  | bool (value : Bool)
  | num (value : ν)
  | str (text : String)
  | arr (items : List (JsonValue ν))
  | obj (fields : List (String × JsonValue ν))

namespace JsonText

/-- The characters a number, or the name of one, is written with. -/
def isNumeral (c : Char) : Bool := c.isAlphanum || c = '+' || c = '-' || c = '.'

/-- The characters a number begins with. -/
def startsNumber (c : Char) : Bool := c.isDigit || c = '-' || c = 'N' || c = 'I'

/-- How the numbers are written; each is read back. -/
structure NumberFormat (ν : Type) where
  print : ν → List Char
  read : List Char → Option ν
  read_print : ∀ n, read (print n) = some n
  numerals : ∀ n, ∀ c ∈ print n, isNumeral c = true
  starts : ∀ n, ∃ c rest, print n = c :: rest ∧ startsNumber c = true

/-! ## Writing -/

def hexDigits (n : ℕ) : List Char :=
  [n / 4096 % 16, n / 256 % 16, n / 16 % 16, n % 16].map Nat.digitChar

/-- A character inside a string; what is not ASCII stands as it is. -/
def escapeChar (c : Char) : List Char :=
  if c = '"' then ['\\', '"']
  else if c = '\\' then ['\\', '\\']
  else if c = '\n' then ['\\', 'n']
  else if c = '\r' then ['\\', 'r']
  else if c = '\t' then ['\\', 't']
  else if c.toNat = 0x0c then ['\\', 'f']
  else if c.toNat = 0x08 then ['\\', 'b']
  else if c.toNat < 0x20 then ['\\', 'u'] ++ hexDigits c.toNat
  else [c]

def escapeText (text : List Char) : List Char := text.flatMap escapeChar

def quote (text : String) : List Char := '"' :: (escapeText text.toList ++ ['"'])

variable {ν : Type}

mutual

/-- The compact text of a value. -/
def render (format : NumberFormat ν) : JsonValue ν → List Char
  | .null => "null".toList
  | .bool value => if value then "true".toList else "false".toList
  | .num value => format.print value
  | .str text => quote text
  | .arr items => '[' :: renderItems format items
  | .obj fields => '\x7b' :: renderFields format fields

/-- The items of an array with the bracket that closes it. -/
def renderItems (format : NumberFormat ν) : List (JsonValue ν) → List Char
  | [] => [']']
  | [item] => render format item ++ [']']
  | item :: items => render format item ++ ',' :: renderItems format items

/-- The members of an object with the brace that closes it. -/
def renderFields (format : NumberFormat ν) : List (String × JsonValue ν) → List Char
  | [] => ['\x7d']
  | [(name, value)] => quote name ++ ':' :: (render format value ++ ['\x7d'])
  | (name, value) :: fields => quote name ++ ':' :: (render format value ++ ',' :: renderFields format fields)

end

/-! ## Reading -/

def isBlank (c : Char) : Bool := c = ' ' || c = '\t' || c = '\n' || c = '\r'

def skipBlank (text : List Char) : List Char := text.dropWhile isBlank

def hexValue (c : Char) : Option ℕ :=
  if c.isDigit then some (c.toNat - '0'.toNat)
  else if 'a' ≤ c ∧ c ≤ 'f' then some (c.toNat - 'a'.toNat + 10)
  else if 'A' ≤ c ∧ c ≤ 'F' then some (c.toNat - 'A'.toNat + 10)
  else none

/-- Four hexadecimal digits. -/
def readHex : List Char → Option (ℕ × List Char)
  | a :: b :: c :: d :: rest => do
    let high ← hexValue a
    let second ← hexValue b
    let third ← hexValue c
    let low ← hexValue d
    some (high * 4096 + second * 256 + third * 16 + low, rest)
  | _ => none

/-- The character after `\u`: one code unit, or two surrogates. A lone surrogate is no character. -/
def readUnicode (text : List Char) : Option (Char × List Char) :=
  (readHex text).bind fun (unit, rest) =>
    if 0xd800 ≤ unit ∧ unit < 0xdc00 then
      match rest with
      | '\\' :: 'u' :: rest =>
        (readHex rest).bind fun (low, rest) =>
          if 0xdc00 ≤ low ∧ low < 0xe000 then
            some (Char.ofNat (0x10000 + (unit - 0xd800) * 0x400 + (low - 0xdc00)), rest)
          else none
      | _ => none
    else if 0xdc00 ≤ unit ∧ unit < 0xe000 then none
    else some (Char.ofNat unit, rest)

/-- What follows a backslash. -/
def readEscape : List Char → Option (Char × List Char)
  | [] => none
  | c :: rest =>
    if c = '"' ∨ c = '\\' ∨ c = '/' then some (c, rest)
    else if c = 'n' then some ('\n', rest)
    else if c = 'r' then some ('\r', rest)
    else if c = 't' then some ('\t', rest)
    else if c = 'f' then some (Char.ofNat 0x0c, rest)
    else if c = 'b' then some (Char.ofNat 0x08, rest)
    else if c = 'u' then readUnicode rest
    else none

/-- The rest of a string after its opening quote. -/
def readString : ℕ → List Char → Option (List Char × List Char)
  | 0, _ => none
  | _ + 1, [] => none
  | n + 1, c :: rest =>
    if c = '"' then some ([], rest)
    else if c = '\\' then
      (readEscape rest).bind fun (d, rest) => (readString n rest).map fun (text, rest) => (d :: text, rest)
    else if c.toNat < 0x20 then none
    else (readString n rest).map fun (text, rest) => (c :: text, rest)

def readNumber (format : NumberFormat ν) (text : List Char) : Option (JsonValue ν × List Char) :=
  (format.read (text.takeWhile isNumeral)).map fun n => (.num n, text.dropWhile isNumeral)

/-- A word such as `null`. -/
def readWord (word : List Char) (value : JsonValue ν) (text : List Char) : Option (JsonValue ν × List Char) :=
  if word <+: text then some (value, text.drop word.length) else none

mutual

def readValue (format : NumberFormat ν) : ℕ → List Char → Option (JsonValue ν × List Char)
  | 0, _ => none
  | _ + 1, [] => none
  | n + 1, c :: rest =>
    if c = '"' then (readString (rest.length + 1) rest).map fun (text, rest) => (.str (.ofList text), rest)
    else if c = '[' then
      if (skipBlank rest).head? = some ']' then some (.arr [], (skipBlank rest).tail)
      else (readItems format n (skipBlank rest)).map fun (items, rest) => (.arr items, rest)
    else if c = '\x7b' then
      if (skipBlank rest).head? = some '\x7d' then some (.obj [], (skipBlank rest).tail)
      else (readFields format n (skipBlank rest)).map fun (fields, rest) => (.obj fields, rest)
    else if c = 'n' then readWord "null".toList .null (c :: rest)
    else if c = 't' then readWord "true".toList (.bool true) (c :: rest)
    else if c = 'f' then readWord "false".toList (.bool false) (c :: rest)
    else readNumber format (c :: rest)

/-- At least one item, and the bracket. -/
def readItems (format : NumberFormat ν) : ℕ → List Char → Option (List (JsonValue ν) × List Char)
  | 0, _ => none
  | n + 1, text =>
    (readValue format n text).bind fun (item, rest) =>
      match skipBlank rest with
      | ',' :: rest => (readItems format n (skipBlank rest)).map fun (items, rest) => (item :: items, rest)
      | ']' :: rest => some ([item], rest)
      | _ => none

/-- At least one member, and the brace. -/
def readFields (format : NumberFormat ν) : ℕ → List Char → Option (List (String × JsonValue ν) × List Char)
  | 0, _ => none
  | n + 1, text =>
    match text with
    | '"' :: rest =>
      (readString (rest.length + 1) rest).bind fun (name, rest) =>
        match skipBlank rest with
        | ':' :: rest =>
          (readValue format n (skipBlank rest)).bind fun (value, rest) =>
            match skipBlank rest with
            | ',' :: rest =>
              (readFields format n (skipBlank rest)).map fun (fields, rest) => ((.ofList name, value) :: fields, rest)
            | '\x7d' :: rest => some ([(.ofList name, value)], rest)
            | _ => none
        | _ => none
    | _ => none

end

/-- A mark of the encoding in front of the text is dropped. -/
def dropMark : List Char → List Char
  | c :: text => if c.toNat = 0xfeff then text else c :: text
  | [] => []

/-- Reads a text that is one value. Every level of the reader takes a character in two calls at most. -/
def loads (format : NumberFormat ν) (text : List Char) : Option (JsonValue ν) :=
  (readValue format (2 * text.length + 1) (skipBlank (dropMark text))).bind fun (value, rest) =>
    if skipBlank rest = [] then some value else none

/-! ## Strings are read back -/

lemma hexValue_digitChar : ∀ d < 16, hexValue (Nat.digitChar d) = some d := by decide

lemma readHex_hexDigits {n : ℕ} (low : n < 65536) (rest : List Char) :
    readHex (hexDigits n ++ rest) = some (n, rest) := by
  have digit (k : ℕ) : hexValue (Nat.digitChar (k % 16)) = some (k % 16) :=
    hexValue_digitChar _ (Nat.mod_lt _ (by decide))
  simp only [hexDigits, List.map_cons, List.map_nil, List.cons_append, List.nil_append, readHex, digit,
    Option.bind_eq_bind, Option.bind_some, Option.some_inj, Prod.mk.injEq, and_true]
  omega

lemma readUnicode_control {c : Char} (control : c.toNat < 0x20) (rest : List Char) :
    readUnicode (hexDigits c.toNat ++ rest) = some (c, rest) := by
  rw [readUnicode, readHex_hexDigits (by omega), Option.bind_some]
  simp only
  rw [if_neg (by omega), if_neg (by omega), Char.ofNat_toNat]

/-- A written character is read back. -/
lemma readString_escapeChar (n : ℕ) (c : Char) (text : List Char) :
    readString (n + 1) (escapeChar c ++ text) = (readString n text).map fun (read, rest) => (c :: read, rest) := by
  have backslash (e : Char) (more : List Char) (read : readEscape (e :: more) = some (c, text)) :
      readString (n + 1) ('\\' :: e :: more) = (readString n text).map fun (read, rest) => (c :: read, rest) := by
    rw [readString, if_neg (by decide), if_pos rfl, read]
    rfl
  rw [escapeChar]
  split_ifs with quote slash newline return_ tab feed back control
  · subst quote
    exact backslash _ _ rfl
  · subst slash
    exact backslash _ _ rfl
  · subst newline
    exact backslash _ _ rfl
  · subst return_
    exact backslash _ _ rfl
  · subst tab
    exact backslash _ _ rfl
  · apply backslash
    rw [← Char.ofNat_toNat c, feed]
    rfl
  · apply backslash
    rw [← Char.ofNat_toNat c, back]
    rfl
  · apply backslash
    exact readUnicode_control control text
  · rw [List.singleton_append, readString, if_neg quote, if_neg slash, if_neg control]

lemma readString_escapeText (text rest : List Char) {n : ℕ} (fuel : text.length < n) :
    readString n (escapeText text ++ '"' :: rest) = some (text, rest) := by
  induction text generalizing n with
  | nil =>
    obtain ⟨n, rfl⟩ := Nat.exists_eq_succ_of_ne_zero (Nat.ne_of_gt fuel)
    rfl
  | cons c text ih =>
    obtain ⟨n, rfl⟩ := Nat.exists_eq_succ_of_ne_zero (Nat.ne_zero_of_lt fuel)
    rw [List.length_cons, Nat.succ_lt_succ_iff] at fuel
    rw [show escapeText (c :: text) = escapeChar c ++ escapeText text from rfl, List.append_assoc,
      readString_escapeChar, ih fuel]
    rfl

lemma length_le_escapeText (text : List Char) : text.length ≤ (escapeText text).length := by
  have one (c : Char) : 1 ≤ (escapeChar c).length := by
    rw [escapeChar]
    split_ifs <;> simp
  induction text with
  | nil => exact Nat.le_refl 0
  | cons c text ih =>
    rw [show escapeText (c :: text) = escapeChar c ++ escapeText text from rfl, List.length_append, List.length_cons]
    have := one c
    omega

/-- The reader of a string has fuel for what was quoted. -/
lemma readString_quoted (text : String) (rest : List Char) :
    readString ((escapeText text.toList ++ '"' :: rest).length + 1) (escapeText text.toList ++ '"' :: rest) =
      some (text.toList, rest) := by
  apply readString_escapeText
  have := length_le_escapeText text.toList
  rw [List.length_append]
  omega

/-! ## Values are read back -/

/-- What may follow a value: nothing that a number could go on with. -/
def Follows (rest : List Char) : Prop := ∀ c ∈ rest.head?, isNumeral c = false

lemma follows_cons {c : Char} {rest : List Char} (stop : isNumeral c = false) : Follows (c :: rest) := by
  intro d mem
  obtain rfl := Option.some_inj.mp mem
  exact stop

lemma takeWhile_numeral {word rest : List Char} (numerals : ∀ c ∈ word, isNumeral c = true) (stop : Follows rest) :
    (word ++ rest).takeWhile isNumeral = word ∧ (word ++ rest).dropWhile isNumeral = rest := by
  have ends : rest.takeWhile isNumeral = [] ∧ rest.dropWhile isNumeral = rest := by
    cases rest with
    | nil => exact ⟨rfl, rfl⟩
    | cons c rest =>
      have no := stop c rfl
      exact ⟨List.takeWhile_cons_of_neg (by simp [no]), List.dropWhile_cons_of_neg (by simp [no])⟩
  constructor
  · rw [List.takeWhile_append_of_pos numerals, ends.1, List.append_nil]
  · rw [List.dropWhile_append_of_pos numerals, ends.2]

lemma startsNumber_small {c : Char} (starts : startsNumber c = true) : c.toNat < 0xfeff := by
  rw [startsNumber] at starts
  simp only [Bool.or_eq_true, decide_eq_true_eq, Char.isDigit, Bool.and_eq_true] at starts
  rcases starts with ((⟨_, digit⟩ | rfl) | rfl) | rfl
  · have small : c.toNat ≤ '9'.toNat := digit
    exact Nat.lt_of_le_of_lt small (by decide)
  · decide
  · decide
  · decide

/-- How a value begins. -/
lemma render_head (format : NumberFormat ν) (v : JsonValue ν) :
    ∃ c rest, render format v = c :: rest ∧ isBlank c = false ∧ c ≠ ']' ∧ c ≠ '\x7d' := by
  cases v with
  | null => exact ⟨'n', _, rfl, by decide⟩
  | bool value =>
    cases value with
    | true => exact ⟨'t', _, rfl, by decide⟩
    | false => exact ⟨'f', _, rfl, by decide⟩
  | num value =>
    obtain ⟨c, rest, eq, starts⟩ := format.starts value
    refine ⟨c, rest, eq, ?_, ?_, ?_⟩
    · rw [isBlank]
      by_contra blank
      simp only [Bool.not_eq_false, Bool.or_eq_true, decide_eq_true_eq] at blank
      rcases blank with ((rfl | rfl) | rfl) | rfl <;> exact absurd starts (by decide)
    · rintro rfl
      exact absurd starts (by decide)
    · rintro rfl
      exact absurd starts (by decide)
  | str text => exact ⟨'"', _, rfl, by decide⟩
  | arr items => exact ⟨'[', _, rfl, by decide⟩
  | obj fields => exact ⟨'\x7b', _, rfl, by decide⟩

lemma skipBlank_cons {c : Char} {rest : List Char} (ink : isBlank c = false) : skipBlank (c :: rest) = c :: rest :=
  List.dropWhile_cons_of_neg (by simp [ink])

lemma skipBlank_render (format : NumberFormat ν) (v : JsonValue ν) (rest : List Char) :
    skipBlank (render format v ++ rest) = render format v ++ rest := by
  obtain ⟨c, tail, eq, ink, _⟩ := render_head format v
  rw [eq, List.cons_append, skipBlank_cons ink]

lemma readNumber_print (format : NumberFormat ν) (n : ν) {rest : List Char} (stop : Follows rest) :
    readNumber format (format.print n ++ rest) = some (.num n, rest) := by
  obtain ⟨word, after⟩ := takeWhile_numeral (format.numerals n) stop
  rw [readNumber, word, after, format.read_print]
  rfl

lemma readWord_append (word : List Char) (value : JsonValue ν) (rest : List Char) :
    readWord word value (word ++ rest) = some (value, rest) := by
  rw [readWord, if_pos (List.prefix_append word rest), List.drop_left]

/-- The number branch is the one a number takes. -/
lemma readValue_number (format : NumberFormat ν) {c : Char} (starts : startsNumber c = true) (n : ℕ)
    (rest : List Char) : readValue format (n + 1) (c :: rest) = readNumber format (c :: rest) := by
  have other (d : Char) (no : startsNumber d = false) : c ≠ d := by
    rintro rfl
    rw [starts] at no
    cases no
  rw [readValue, if_neg (other _ (by decide)), if_neg (other _ (by decide)), if_neg (other _ (by decide)),
    if_neg (other _ (by decide)), if_neg (other _ (by decide)), if_neg (other _ (by decide))]

lemma renderItems_cons (format : NumberFormat ν) (item next : JsonValue ν) (items : List (JsonValue ν)) :
    renderItems format (item :: next :: items) = render format item ++ ',' :: renderItems format (next :: items) :=
  rfl

lemma renderFields_cons (format : NumberFormat ν) (name : String) (value : JsonValue ν)
    (next : String × JsonValue ν) (fields : List (String × JsonValue ν)) :
    renderFields format ((name, value) :: next :: fields) =
      quote name ++ ':' :: (render format value ++ ',' :: renderFields format (next :: fields)) :=
  rfl

lemma fuel_succ (format : NumberFormat ν) {v : JsonValue ν} {n : ℕ} (fuel : 2 * (render format v).length ≤ n) :
    ∃ m, n = m + 1 := by
  obtain ⟨c, rest, eq, _⟩ := render_head format v
  rw [eq, List.length_cons] at fuel
  exact Nat.exists_eq_succ_of_ne_zero (by omega)

/-- What a nested list or object begins with is not the bracket that would close an empty one. -/
lemma renderItems_head (format : NumberFormat ν) (item : JsonValue ν) (items : List (JsonValue ν))
    (rest : List Char) : skipBlank (renderItems format (item :: items) ++ rest) =
        renderItems format (item :: items) ++ rest ∧
      (renderItems format (item :: items) ++ rest).head? ≠ some ']' := by
  obtain ⟨c, tail, eq, ink, bracket, _⟩ := render_head format item
  cases items with
  | nil =>
    rw [renderItems, eq]
    exact ⟨skipBlank_cons ink, fun same => bracket (Option.some_inj.mp same)⟩
  | cons next items =>
    rw [renderItems_cons, eq]
    exact ⟨skipBlank_cons ink, fun same => bracket (Option.some_inj.mp same)⟩

lemma renderFields_head (format : NumberFormat ν) (field : String × JsonValue ν)
    (fields : List (String × JsonValue ν)) (rest : List Char) :
    ∃ tail, renderFields format (field :: fields) ++ rest = '"' :: tail := by
  cases fields with
  | nil => exact ⟨_, rfl⟩
  | cons next fields => exact ⟨_, rfl⟩

mutual

/-- A rendered value is read back, with fuel for two calls a character. -/
theorem readValue_render (format : NumberFormat ν) : ∀ (v : JsonValue ν) {n : ℕ} {rest : List Char},
    2 * (render format v).length ≤ n → Follows rest →
    readValue format n (render format v ++ rest) = some (v, rest)
  | .null, n, rest, fuel, _ => by
    obtain ⟨n, rfl⟩ := fuel_succ format fuel
    exact readWord_append "null".toList .null rest
  | .bool true, n, rest, fuel, _ => by
    obtain ⟨n, rfl⟩ := fuel_succ format fuel
    exact readWord_append "true".toList (.bool true) rest
  | .bool false, n, rest, fuel, _ => by
    obtain ⟨n, rfl⟩ := fuel_succ format fuel
    exact readWord_append "false".toList (.bool false) rest
  | .num value, n, rest, fuel, stop => by
    obtain ⟨c, tail, eq, starts⟩ := format.starts value
    rw [render, eq, List.length_cons] at fuel
    obtain ⟨n, rfl⟩ := Nat.exists_eq_succ_of_ne_zero (by omega : n ≠ 0)
    have read := readNumber_print format value stop
    rw [render]
    rw [eq, List.cons_append] at read ⊢
    rw [readValue_number format starts, read]
  | .str text, n, rest, fuel, _ => by
    rw [render, quote, List.length_cons] at fuel
    obtain ⟨n, rfl⟩ := Nat.exists_eq_succ_of_ne_zero (by omega : n ≠ 0)
    rw [render, quote, List.cons_append, List.append_assoc, List.singleton_append, readValue, if_pos rfl,
      readString_quoted, Option.map_some]
    simp only [String.ofList_toList]
  | .arr [], n, rest, fuel, _ => by
    obtain ⟨n, rfl⟩ := fuel_succ format fuel
    rfl
  | .arr (item :: items), n, rest, fuel, _ => by
    rw [render, List.length_cons] at fuel
    obtain ⟨n, rfl⟩ := Nat.exists_eq_succ_of_ne_zero (by omega : n ≠ 0)
    obtain ⟨ink, open_⟩ := renderItems_head format item items rest
    rw [render, List.cons_append, readValue, if_neg (by decide), if_pos rfl, ink, if_neg open_,
      readItems_render format (item :: items) (by nofun) (by omega), Option.map_some]
  | .obj [], n, rest, fuel, _ => by
    obtain ⟨n, rfl⟩ := fuel_succ format fuel
    rfl
  | .obj (field :: fields), n, rest, fuel, _ => by
    rw [render, List.length_cons] at fuel
    obtain ⟨n, rfl⟩ := Nat.exists_eq_succ_of_ne_zero (by omega : n ≠ 0)
    obtain ⟨tail, head⟩ := renderFields_head format field fields rest
    have read : readFields format n (renderFields format (field :: fields) ++ rest) = some (field :: fields, rest) :=
      readFields_render format (field :: fields) (by nofun) (by omega)
    have opened : ('"' :: tail).head? ≠ some '\x7d' := fun same => absurd (Option.some_inj.mp same) (by decide)
    rw [render, List.cons_append, readValue, if_neg (by decide), if_neg (by decide), if_pos rfl, head,
      skipBlank_cons (by decide), if_neg opened, ← head, read, Option.map_some]

theorem readItems_render (format : NumberFormat ν) : ∀ (items : List (JsonValue ν)) {n : ℕ} {rest : List Char},
    items ≠ [] → 2 * (renderItems format items).length + 1 ≤ n →
    readItems format n (renderItems format items ++ rest) = some (items, rest)
  | [], _, _, filled, _ => absurd rfl filled
  | [item], n, rest, _, fuel => by
    obtain ⟨n, rfl⟩ := Nat.exists_eq_succ_of_ne_zero (by omega : n ≠ 0)
    rw [renderItems, List.length_append] at fuel
    rw [renderItems, List.append_assoc, List.singleton_append, readItems,
      readValue_render format item (by omega) (follows_cons (by decide)), Option.bind_some]
    rfl
  | item :: next :: items, n, rest, _, fuel => by
    obtain ⟨n, rfl⟩ := Nat.exists_eq_succ_of_ne_zero (by omega : n ≠ 0)
    rw [renderItems_cons, List.length_append, List.length_cons] at fuel
    rw [renderItems_cons, List.append_assoc, List.cons_append, readItems,
      readValue_render format item (by omega) (follows_cons (by decide)), Option.bind_some]
    simp only [skipBlank_cons (by decide : isBlank ',' = false)]
    rw [(renderItems_head format next items rest).1,
      readItems_render format (next :: items) (by nofun) (by omega), Option.map_some]

theorem readFields_render (format : NumberFormat ν) :
    ∀ (fields : List (String × JsonValue ν)) {n : ℕ} {rest : List Char},
    fields ≠ [] → 2 * (renderFields format fields).length + 1 ≤ n →
    readFields format n (renderFields format fields ++ rest) = some (fields, rest)
  | [], _, _, filled, _ => absurd rfl filled
  | [(name, value)], n, rest, _, fuel => by
    obtain ⟨n, rfl⟩ := Nat.exists_eq_succ_of_ne_zero (by omega : n ≠ 0)
    rw [renderFields, List.length_append, List.length_cons, List.length_append] at fuel
    rw [renderFields, quote]
    simp only [List.cons_append, List.append_assoc, List.nil_append]
    rw [readFields, readString_quoted, Option.bind_some]
    simp only [skipBlank_cons (by decide : isBlank ':' = false)]
    rw [skipBlank_render, readValue_render format value (by omega) (follows_cons (by decide)), Option.bind_some]
    simp only [skipBlank_cons (by decide : isBlank '\x7d' = false), String.ofList_toList]
  | (name, value) :: next :: fields, n, rest, _, fuel => by
    obtain ⟨n, rfl⟩ := Nat.exists_eq_succ_of_ne_zero (by omega : n ≠ 0)
    rw [renderFields_cons, List.length_append, List.length_cons, List.length_append, List.length_cons] at fuel
    rw [renderFields_cons, quote]
    simp only [List.cons_append, List.append_assoc, List.nil_append]
    rw [readFields, readString_quoted, Option.bind_some]
    simp only [skipBlank_cons (by decide : isBlank ':' = false)]
    rw [skipBlank_render, readValue_render format value (by omega) (follows_cons (by decide)), Option.bind_some]
    simp only [skipBlank_cons (by decide : isBlank ',' = false), String.ofList_toList]
    obtain ⟨tail, head⟩ := renderFields_head format next fields rest
    have read : readFields format n (renderFields format (next :: fields) ++ rest) = some (next :: fields, rest) :=
      readFields_render format (next :: fields) (by nofun) (by omega)
    rw [head, skipBlank_cons (by decide), ← head, read, Option.map_some]

end

/-- What a rendered text begins with is no mark of an encoding. -/
lemma dropMark_render (format : NumberFormat ν) (v : JsonValue ν) : dropMark (render format v) = render format v := by
  obtain ⟨c, rest, eq, small⟩ : ∃ c rest, render format v = c :: rest ∧ c.toNat < 0xfeff := by
    cases v with
    | null => exact ⟨'n', _, rfl, by decide⟩
    | bool value =>
      cases value with
      | true => exact ⟨'t', _, rfl, by decide⟩
      | false => exact ⟨'f', _, rfl, by decide⟩
    | num value =>
      obtain ⟨c, rest, eq, starts⟩ := format.starts value
      exact ⟨c, rest, eq, startsNumber_small starts⟩
    | str text => exact ⟨'"', _, rfl, by decide⟩
    | arr items => exact ⟨'[', _, rfl, by decide⟩
    | obj fields => exact ⟨'\x7b', _, rfl, by decide⟩
  rw [eq, dropMark, if_neg (Nat.ne_of_lt small)]

/-- A rendered value is what its text is read as. -/
theorem loads_render (format : NumberFormat ν) (v : JsonValue ν) : loads format (render format v) = some v := by
  have blank := skipBlank_render format v []
  rw [List.append_nil] at blank
  have ends : Follows [] := nofun
  have read := readValue_render format v (Nat.le_succ (2 * (render format v).length)) ends
  rw [List.append_nil] at read
  rw [loads, dropMark_render, blank, read]
  rfl

/-! ## Natural numbers -/

/-- The natural numbers in decimal digits. -/
def naturals : NumberFormat ℕ where
  print := Nat.toDigits 10
  read digits :=
    if Nat.toDigits 10 (Nat.ofDigitChars 10 digits 0) = digits then some (Nat.ofDigitChars 10 digits 0) else none
  read_print n := by simp
  numerals n c mem := by
    have digit : c.isDigit = true := Nat.isDigit_of_mem_toDigits (by decide) (by decide) mem
    simp [isNumeral, Char.isAlphanum, digit]
  starts n := by
    obtain ⟨c, rest, eq⟩ := List.exists_cons_of_ne_nil (Nat.toDigits_ne_nil (n := n) (b := 10))
    have digit : c.isDigit = true :=
      Nat.isDigit_of_mem_toDigits (b := 10) (n := n) (by decide) (by decide) (eq ▸ List.mem_cons_self)
    exact ⟨c, rest, eq, by simp [startsNumber, digit]⟩

end JsonText

end ClientEngagement
