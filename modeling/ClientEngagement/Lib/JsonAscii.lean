import ClientEngagement.Lib.JsonText
import ClientEngagement.Lib.PythonText

/-!
# JSON text in ASCII

How `json.dumps` writes a list of texts and numbers when it is told nothing else: a comma and a blank
between the items, and every character that is not printable ASCII escaped, by two surrogates where it
needs them. The reader of JSON text takes it back (`loads_dumps`); an object without numbers and nested values
is known by its text (`dumps_obj_inj`).
-/

namespace ClientEngagement.JsonText

/-- What holds no other value. -/
inductive Scalar (ν : Type) where
  | num (value : ν)
  | text (value : String)

namespace Scalar

variable {ν : Type}

def toJson : Scalar ν → JsonValue ν
  | .num value => .num value
  | .text value => .str value

def write (format : NumberFormat ν) : Scalar ν → List Char
  | .num value => format.print value
  | .text value => ClientEngagement.quote value.toList

/-- `json.dumps` of a list. -/
def dumps (format : NumberFormat ν) (items : List (Scalar ν)) : List Char :=
  '[' :: (separated [',', ' '] (items.map (write format)) ++ [']'])

end Scalar

/-! ## Texts are read back -/

lemma readUnicode_unit {c : Char} (low : c.toNat < 0x10000) (rest : List Char) :
    readUnicode (hexDigits c.toNat ++ rest) = some (c, rest) := by
  have valid : c.toNat < 0xd800 ∨ 0xdfff < c.toNat ∧ c.toNat < 0x110000 := c.valid
  rw [readUnicode, readHex_hexDigits low, Option.bind_some]
  simp only
  rw [if_neg (by omega), if_neg (by omega), Char.ofNat_toNat]

lemma readUnicode_pair {c : Char} (high : 0x10000 ≤ c.toNat) (rest : List Char) :
    readUnicode (hexDigits (0xd800 + (c.toNat - 0x10000) / 0x400) ++
      '\\' :: 'u' :: (hexDigits (0xdc00 + (c.toNat - 0x10000) % 0x400) ++ rest)) = some (c, rest) := by
  have valid : c.toNat < 0xd800 ∨ 0xdfff < c.toNat ∧ c.toNat < 0x110000 := c.valid
  rw [readUnicode, readHex_hexDigits (by omega), Option.bind_some]
  simp only
  rw [if_pos (by omega), readHex_hexDigits (by omega), Option.bind_some]
  simp only
  rw [if_pos (by omega)]
  have same : 0x10000 + (0xd800 + (c.toNat - 0x10000) / 0x400 - 0xd800) * 0x400 +
      (0xdc00 + (c.toNat - 0x10000) % 0x400 - 0xdc00) = c.toNat := by omega
  rw [same, Char.ofNat_toNat]

lemma readString_backslash {e c : Char} {more rest : List Char} (n : ℕ)
    (read : readEscape (e :: more) = some (c, rest)) :
    readString (n + 1) ('\\' :: e :: more) = (readString n rest).map fun (text, rest) => (c :: text, rest) := by
  rw [readString, if_neg (by decide), if_pos rfl, read]
  rfl

/-- An escaped character is read back. -/
lemma readString_ascii (n : ℕ) (c : Char) (text : List Char) :
    readString (n + 1) (ClientEngagement.escapeChar c ++ text) =
      (readString n text).map fun (read, rest) => (c :: read, rest) := by
  rw [ClientEngagement.escapeChar]
  split_ifs with quote slash newline return_ tab feed back plain unit
  · subst quote
    exact readString_backslash n rfl
  · subst slash
    exact readString_backslash n rfl
  · subst newline
    exact readString_backslash n rfl
  · subst return_
    exact readString_backslash n rfl
  · subst tab
    exact readString_backslash n rfl
  · apply readString_backslash
    rw [← Char.ofNat_toNat c, feed]
    rfl
  · apply readString_backslash
    rw [← Char.ofNat_toNat c, back]
    rfl
  · rw [List.singleton_append, readString, if_neg quote, if_neg slash, if_neg (by omega)]
  · apply readString_backslash
    exact readUnicode_unit unit text
  · simp only [List.append_assoc, List.cons_append, List.nil_append]
    apply readString_backslash
    exact readUnicode_pair (by omega) text

lemma length_le_ascii (text : List Char) : text.length ≤ (text.flatMap ClientEngagement.escapeChar).length := by
  have one (c : Char) : 1 ≤ (ClientEngagement.escapeChar c).length := by
    rw [ClientEngagement.escapeChar]
    split_ifs <;> simp
  induction text with
  | nil => exact Nat.le_refl 0
  | cons c text ih =>
    have := one c
    rw [List.flatMap_cons, List.length_append, List.length_cons]
    omega

lemma readString_flatMap (text rest : List Char) {n : ℕ} (fuel : text.length < n) :
    readString n (text.flatMap ClientEngagement.escapeChar ++ '"' :: rest) = some (text, rest) := by
  induction text generalizing n with
  | nil =>
    obtain ⟨n, rfl⟩ := Nat.exists_eq_succ_of_ne_zero (Nat.ne_of_gt fuel)
    rfl
  | cons c text ih =>
    obtain ⟨n, rfl⟩ := Nat.exists_eq_succ_of_ne_zero (Nat.ne_zero_of_lt fuel)
    rw [List.length_cons, Nat.succ_lt_succ_iff] at fuel
    rw [List.flatMap_cons, List.append_assoc, readString_ascii, ih fuel]
    rfl

/-! ## Lists are read back -/

namespace Scalar

variable {ν : Type} (format : NumberFormat ν)

/-- How an item begins. -/
lemma write_head (item : Scalar ν) :
    ∃ c rest, write format item = c :: rest ∧ isBlank c = false ∧ c ≠ ']' := by
  cases item with
  | num value =>
    obtain ⟨c, rest, eq, ink, bracket, _⟩ := render_head format (.num value)
    exact ⟨c, rest, eq, ink, bracket⟩
  | text value => exact ⟨'"', _, rfl, by decide⟩

lemma readValue_write (item : Scalar ν) {n : ℕ} {rest : List Char} (fuel : (write format item).length ≤ n)
    (stop : Follows rest) : readValue format (n + 1) (write format item ++ rest) = some (item.toJson, rest) := by
  cases item with
  | num value =>
    obtain ⟨c, tail, eq, starts⟩ := format.starts value
    have read := readNumber_print format value stop
    rw [write]
    rw [eq, List.cons_append] at read ⊢
    rw [readValue_number format starts, read]
    rfl
  | text value =>
    have long := length_le_ascii value.toList
    rw [write, ClientEngagement.quote, List.append_assoc, List.append_assoc, List.singleton_append,
      readValue, if_pos rfl, List.singleton_append, readString_flatMap, Option.map_some]
    · simp only [String.ofList_toList, toJson]
    · rw [List.length_append]
      omega

lemma separated_cons (item next : Scalar ν) (items : List (Scalar ν)) :
    separated [',', ' '] ((item :: next :: items).map (write format)) =
      write format item ++ [',', ' '] ++ separated [',', ' '] ((next :: items).map (write format)) := rfl

/-- The items begin as the first of them does. -/
lemma separated_head (item : Scalar ν) (items : List (Scalar ν)) :
    ∃ c rest, separated [',', ' '] ((item :: items).map (write format)) = c :: rest ∧ isBlank c = false ∧ c ≠ ']' := by
  obtain ⟨c, rest, eq, ink, bracket⟩ := write_head format item
  cases items with
  | nil => exact ⟨c, rest, eq, ink, bracket⟩
  | cons next items =>
    rw [separated_cons, eq]
    exact ⟨c, _, rfl, ink, bracket⟩

lemma readItems_separated (item : Scalar ν) (items : List (Scalar ν)) {n : ℕ} (rest : List Char)
    (fuel : (separated [',', ' '] ((item :: items).map (write format))).length + 2 ≤ n) :
    readItems format n (separated [',', ' '] ((item :: items).map (write format)) ++ ']' :: rest) =
      some ((item :: items).map toJson, rest) := by
  obtain ⟨n, rfl⟩ : ∃ m, n = m + 2 := ⟨n - 2, by omega⟩
  induction items generalizing item n with
  | nil =>
    rw [List.map_singleton, separated] at fuel ⊢
    rw [readItems, readValue_write format item (by omega) (follows_cons (by decide)), Option.bind_some]
    simp only [skipBlank_cons (by decide : isBlank ']' = false), List.map_singleton]
  | cons next items ih =>
    obtain ⟨c, tail, head, ink, _⟩ := separated_head format next items
    have skip (more : List Char) : skipBlank (' ' :: (separated [',', ' '] ((next :: items).map (write format)) ++ more)) =
        separated [',', ' '] ((next :: items).map (write format)) ++ more := by
      rw [head]
      exact skipBlank_cons ink
    rw [separated_cons, List.length_append, List.length_append, List.length_cons, List.length_singleton] at fuel
    obtain ⟨n, rfl⟩ : ∃ m, n = m + 1 := ⟨n - 1, by omega⟩
    rw [separated_cons, List.append_assoc, List.append_assoc, List.cons_append, List.singleton_append, readItems,
      readValue_write format item (by omega) (follows_cons (by decide)), Option.bind_some]
    simp only [skipBlank_cons (by decide : isBlank ',' = false)]
    rw [skip, ih next n (by omega), Option.map_some]
    rfl

/-- A written list is what its text is read as. -/
theorem loads_dumps (items : List (Scalar ν)) : loads format (dumps format items) = some (.arr (items.map toJson)) := by
  cases items with
  | nil => rfl
  | cons item items =>
    obtain ⟨c, tail, head, ink, bracket⟩ := separated_head format item items
    have open_ : (separated [',', ' '] ((item :: items).map (write format)) ++ [']']).head? ≠ some ']' := by
      rw [head]
      exact fun same => bracket (Option.some_inj.mp same)
    have skip : skipBlank (separated [',', ' '] ((item :: items).map (write format)) ++ [']']) =
        separated [',', ' '] ((item :: items).map (write format)) ++ [']'] := by
      rw [head]
      exact skipBlank_cons ink
    have read := readItems_separated format item items (n := 2 * (dumps format (item :: items)).length) [] (by
      rw [dumps, List.length_cons, List.length_append]
      omega)
    rw [loads, show dropMark (dumps format (item :: items)) = dumps format (item :: items) from rfl,
      show skipBlank (dumps format (item :: items)) = dumps format (item :: items) from rfl, dumps, readValue,
      if_neg (by decide), if_pos rfl, skip, if_neg open_, ← dumps, read]
    rfl

end Scalar

end ClientEngagement.JsonText

/-! ## Objects -/

namespace ClientEngagement.Json

/-- A value that holds no other and is not a number. -/
inductive Plain : Json → Prop where
  | null : Plain .null
  | bool (value : Bool) : Plain (.bool value)
  | str (text : String) : Plain (.str text)

variable {number : ℚ → List Char}

/-- A quoted text and what follows it are read off the whole. -/
lemma quote_append_inj {a b x y : List Char} (same : ClientEngagement.quote a ++ x = ClientEngagement.quote b ++ y) :
    a = b ∧ x = y := by
  rw [ClientEngagement.quote, ClientEngagement.quote] at same
  simp only [List.append_assoc, List.cons_append, List.nil_append, List.cons.injEq, true_and] at same
  have read := JsonText.readString_flatMap a x (n := a.length + b.length + 1) (by omega)
  have read' := JsonText.readString_flatMap b y (n := a.length + b.length + 1) (by omega)
  rw [same, read', Option.some_inj] at read
  exact ⟨(Prod.mk.inj read).1.symm, (Prod.mk.inj read).2.symm⟩

lemma dumps_append_inj {v w : Json} {x y : List Char} (plain : Plain v) (plain' : Plain w)
    (same : dumps number v ++ x = dumps number w ++ y) : v = w ∧ x = y := by
  cases plain with
  | null =>
    cases plain' with
    | null => simpa [dumps] using same
    | bool value => cases value <;> simp [dumps] at same
    | str text => simp [dumps, ClientEngagement.quote] at same
  | bool value =>
    cases plain' with
    | null => cases value <;> simp [dumps] at same
    | bool value' => cases value <;> cases value' <;> simp_all [dumps]
    | str text => cases value <;> simp [dumps, ClientEngagement.quote] at same
  | str text =>
    cases plain' with
    | null => simp [dumps, ClientEngagement.quote] at same
    | bool value => cases value <;> simp [dumps, ClientEngagement.quote] at same
    | str text' =>
      rw [dumps, dumps] at same
      obtain ⟨texts, rest⟩ := quote_append_inj same
      exact ⟨congrArg _ (String.toList_inj.mp texts), rest⟩

/-- The text of a member. -/
def dumpsField (number : ℚ → List Char) (field : String × Json) : List Char :=
  ClientEngagement.quote field.1.toList ++ [':', ' '] ++ dumps number field.2

lemma dumpsField_append_inj {field field' : String × Json} {x y : List Char} (plain : Plain field.2)
    (plain' : Plain field'.2) (same : dumpsField number field ++ x = dumpsField number field' ++ y) :
    field = field' ∧ x = y := by
  rw [dumpsField, dumpsField] at same
  simp only [List.append_assoc] at same
  obtain ⟨names, rest⟩ := quote_append_inj same
  simp only [List.cons_append, List.nil_append, List.cons.injEq, true_and] at rest
  obtain ⟨values, tail⟩ := dumps_append_inj plain plain' rest
  exact ⟨Prod.ext (String.toList_inj.mp names) values, tail⟩

lemma dumpsField_ne_brace (field : String × Json) (x : List Char) : dumpsField number field ++ x ≠ ['\x7d'] := by
  rw [dumpsField, ClientEngagement.quote]
  simp

lemma separated_cons_cons (separator part next : List Char) (parts : List (List Char)) :
    separated separator (part :: next :: parts) = part ++ separator ++ separated separator (next :: parts) := rfl

/-- Objects of plain members have different texts. -/
lemma separated_fields_inj {fields fields' : List (String × Json)} (plain : ∀ field ∈ fields, Plain field.2)
    (plain' : ∀ field ∈ fields', Plain field.2)
    (same : separated [',', ' '] (fields.map (dumpsField number)) ++ ['\x7d'] =
      separated [',', ' '] (fields'.map (dumpsField number)) ++ ['\x7d']) : fields = fields' := by
  induction fields generalizing fields' with
  | nil =>
    cases fields' with
    | nil => rfl
    | cons field rest =>
      cases rest with
      | nil => exact absurd same.symm (dumpsField_ne_brace field _)
      | cons next rest =>
        simp only [List.map_cons, separated, List.append_assoc] at same
        exact absurd same.symm (dumpsField_ne_brace field _)
  | cons field fields ih =>
    cases fields' with
    | nil =>
      cases fields with
      | nil => exact absurd same (dumpsField_ne_brace field _)
      | cons next rest =>
        simp only [List.map_cons, separated, List.append_assoc] at same
        exact absurd same (dumpsField_ne_brace field _)
    | cons field' fields' =>
      have own := plain field (List.mem_cons_self ..)
      have own' := plain' field' (List.mem_cons_self ..)
      have later := fun item mem => plain item (List.mem_cons_of_mem _ mem)
      have later' := fun item mem => plain' item (List.mem_cons_of_mem _ mem)
      cases fields with
      | nil =>
        cases fields' with
        | nil =>
          obtain ⟨first, _⟩ := dumpsField_append_inj own own' same
          rw [first]
        | cons next' rest' =>
          simp only [List.map_cons, List.map_nil, separated, List.append_assoc] at same
          obtain ⟨_, rest⟩ := dumpsField_append_inj own own' same
          cases rest
      | cons next rest =>
        cases fields' with
        | nil =>
          simp only [List.map_cons, List.map_nil, separated, List.append_assoc] at same
          obtain ⟨_, rest⟩ := dumpsField_append_inj own own' same
          cases rest
        | cons next' rest' =>
          rw [List.map_cons, List.map_cons, List.map_cons, List.map_cons, separated_cons_cons, separated_cons_cons,
            List.append_assoc, List.append_assoc, List.append_assoc, List.append_assoc] at same
          obtain ⟨first, rest⟩ := dumpsField_append_inj own own' same
          rw [first, ih later later' (List.append_cancel_left rest)]

/-- A plain object is known by its text. -/
theorem dumps_obj_inj {fields fields' : List (String × Json)} (plain : ∀ field ∈ fields, Plain field.2)
    (plain' : ∀ field ∈ fields', Plain field.2) (same : dumps number (.obj fields) = dumps number (.obj fields')) :
    fields = fields' := by
  rw [dumps, dumps, dumpsFields_eq, dumpsFields_eq, List.append_assoc, List.append_assoc] at same
  exact separated_fields_inj plain plain' (List.append_cancel_left same)

lemma Plain.sortKeys {v : Json} (plain : Plain v) : v.sortKeys = v := by
  cases plain <;> rfl

end ClientEngagement.Json
