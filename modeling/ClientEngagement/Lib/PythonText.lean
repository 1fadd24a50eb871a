import ClientEngagement.Lib.Json
import ClientEngagement.Lib.KeyOrder

/-!
# Text as Python handles it

`str.lower`, the `in` test on strings and `json.dumps`, on texts as lists of characters. What depends
on the Unicode tables is a parameter (`Unicode`), and so is how a number is printed; `Unicode.ascii`
serves texts without other characters. `quote_infix` and `lower_infix` say what becomes of a part of a
text, `quote_nested` that a string nested in a value is quoted in its rendering.
-/

namespace ClientEngagement

/-- What Python's `str` and `re` take from the Unicode tables. -/
structure Unicode where
  digit : Char → Bool
  word : Char → Bool
  lower : Char → List Char
  /-- Whether a capital sigma between the two texts (the one before it read backwards) ends a word. -/
  finalSigma : List Char → List Char → Bool

/-- The tables on ASCII texts. -/
def Unicode.ascii : Unicode where
  digit := Char.isDigit
  word := fun c => c.isAlphanum || c = '_'
  lower := fun c => [c.toLower]
  finalSigma := fun _ _ => false

/-- Whether a text occurs in another (`needle in text`). -/
def occursIn (needle text : List Char) : Bool := decide (needle <:+: text)

def lowerFrom (tables : Unicode) (before : List Char) : List Char → List Char
  | [] => []
  | c :: after =>
    (if c = 'Σ' then [if tables.finalSigma before after then 'ς' else 'σ'] else tables.lower c) ++
      lowerFrom tables (c :: before) after

/-- `str.lower`. -/
def lower (tables : Unicode) (text : List Char) : List Char := lowerFrom tables [] text

lemma lowerFrom_append (tables : Unicode) (before u v : List Char) :
    ∃ u', lowerFrom tables before (u ++ v) = u' ++ lowerFrom tables (u.reverse ++ before) v := by
  induction u generalizing before with
  | nil => exact ⟨[], rfl⟩
  | cons c u ih =>
    obtain ⟨u', e⟩ := ih (c :: before)
    rw [List.cons_append, lowerFrom, e, List.reverse_cons, List.append_assoc, ← List.append_assoc]
    exact ⟨_, rfl⟩

/-- Without a capital sigma, lower-casing goes character by character. -/
lemma lowerFrom_plain {tables : Unicode} {before w v : List Char} (plain : 'Σ' ∉ w) :
    lowerFrom tables before (w ++ v) =
      w.flatMap tables.lower ++ lowerFrom tables (w.reverse ++ before) v := by
  induction w generalizing before with
  | nil => rfl
  | cons c w ih =>
    obtain ⟨hc, hw⟩ := not_or.mp (mt List.mem_cons.mpr plain)
    rw [List.cons_append, lowerFrom, if_neg (Ne.symm hc), ih hw, List.flatMap_cons,
      List.append_assoc, List.reverse_cons, List.append_assoc]
    rfl

lemma lower_plain {tables : Unicode} {w : List Char} (plain : 'Σ' ∉ w) :
    lower tables w = w.flatMap tables.lower := by
  have h : lowerFrom tables [] (w ++ []) =
      w.flatMap tables.lower ++ lowerFrom tables (w.reverse ++ []) [] := lowerFrom_plain plain
  rwa [List.append_nil, lowerFrom, List.append_nil] at h

/-- A part without a capital sigma is lower-cased on its own. -/
lemma lower_infix {tables : Unicode} {a w b : List Char} (plain : 'Σ' ∉ w) :
    ∃ a' b', lower tables (a ++ w ++ b) = a' ++ lower tables w ++ b' := by
  obtain ⟨a', e⟩ := lowerFrom_append tables [] a (w ++ b)
  rw [lower, List.append_assoc, e, lowerFrom_plain plain, lower_plain plain, ← List.append_assoc]
  exact ⟨a', _, rfl⟩

/-! ## JSON text -/

def hexDigits (n : ℕ) : List Char :=
  [n / 4096 % 16, n / 256 % 16, n / 16 % 16, n % 16].map Nat.digitChar

/-- A character inside a JSON string; all but printable ASCII is escaped. -/
def escapeChar (c : Char) : List Char :=
  if c = '"' then ['\\', '"']
  else if c = '\\' then ['\\', '\\']
  else if c = '\n' then ['\\', 'n']
  else if c = '\r' then ['\\', 'r']
  else if c = '\t' then ['\\', 't']
  else if c.toNat = 0x0c then ['\\', 'f']
  else if c.toNat = 0x08 then ['\\', 'b']
  else if 0x20 ≤ c.toNat ∧ c.toNat ≤ 0x7e then [c]
  else if c.toNat < 0x10000 then ['\\', 'u'] ++ hexDigits c.toNat
  else
    let rest := c.toNat - 0x10000
    ['\\', 'u'] ++ hexDigits (0xd800 + rest / 0x400) ++ ['\\', 'u'] ++ hexDigits (0xdc00 + rest % 0x400)

/-- A JSON string. -/
def quote (text : List Char) : List Char := ['"'] ++ text.flatMap escapeChar ++ ['"']

/-- The rendered parts, separated. -/
def separated (separator : List Char) : List (List Char) → List Char
  | [] => []
  | [part] => part
  | part :: parts => part ++ separator ++ separated separator parts

namespace Json

mutual

/-- `json.dumps`; `number` prints a number. -/
def dumps (number : ℚ → List Char) : Json → List Char
  | .null => "null".toList
  | .bool value => (if value then "true" else "false").toList
  | .num value => number value
  | .str text => quote text.toList
  | .arr items => ['['] ++ separated [',', ' '] (dumpsItems number items) ++ [']']
  | .obj fields => ['{'] ++ separated [',', ' '] (dumpsFields number fields) ++ ['}']

def dumpsItems (number : ℚ → List Char) : List Json → List (List Char)
  | [] => []
  | item :: items => dumps number item :: dumpsItems number items

def dumpsFields (number : ℚ → List Char) : List (String × Json) → List (List Char)
  | [] => []
  | (name, value) :: fields =>
    (quote name.toList ++ [':', ' '] ++ dumps number value) :: dumpsFields number fields

end

mutual

/-- The value with the members of every object in order of their names. -/
def sortKeys : Json → Json
  | .arr items => .arr (sortKeysItems items)
  | .obj fields => .obj (sortBy Prod.fst (sortKeysFields fields))
  | value => value

def sortKeysItems : List Json → List Json
  | [] => []
  | item :: items => sortKeys item :: sortKeysItems items

def sortKeysFields : List (String × Json) → List (String × Json)
  | [] => []
  | (name, value) :: fields => (name, sortKeys value) :: sortKeysFields fields

end

/-- A string nested anywhere in a value, the names of members included. -/
inductive Nested (text : String) : Json → Prop where
  | here : Nested text (.str text)
  | item {items value} : value ∈ items → Nested text value → Nested text (.arr items)
  | name {fields value} : (text, value) ∈ fields → Nested text (.obj fields)
  | value {fields name value} : (name, value) ∈ fields → Nested text value → Nested text (.obj fields)

lemma dumpsItems_eq (number : ℚ → List Char) (items : List Json) :
    dumpsItems number items = items.map (dumps number) := by
  induction items with
  | nil => rw [dumpsItems, List.map_nil]
  | cons item items ih => rw [dumpsItems, ih, List.map_cons]

lemma dumpsFields_eq (number : ℚ → List Char) (fields : List (String × Json)) :
    dumpsFields number fields =
      fields.map fun field => quote field.1.toList ++ [':', ' '] ++ dumps number field.2 := by
  induction fields with
  | nil => rw [dumpsFields, List.map_nil]
  | cons field fields ih => rw [dumpsFields, ih, List.map_cons]

lemma sortKeysItems_eq (items : List Json) : sortKeysItems items = items.map sortKeys := by
  induction items with
  | nil => rw [sortKeysItems, List.map_nil]
  | cons item items ih => rw [sortKeysItems, ih, List.map_cons]

lemma sortKeysFields_eq (fields : List (String × Json)) :
    sortKeysFields fields = fields.map fun field => (field.1, sortKeys field.2) := by
  induction fields with
  | nil => rw [sortKeysFields, List.map_nil]
  | cons field fields ih => rw [sortKeysFields, ih, List.map_cons]

/-- Sorting the members moves no string out of the value. -/
lemma Nested.sortKeys {text : String} {value : Json} (h : Nested text value) :
    Nested text value.sortKeys := by
  induction h with
  | here =>
    rw [Json.sortKeys]
    · exact .here
    · exact nofun
    · exact nofun
  | item mem _ ih =>
    rw [Json.sortKeys, sortKeysItems_eq]
    exact .item (List.mem_map_of_mem mem) ih
  | name mem =>
    rw [Json.sortKeys, sortKeysFields_eq]
    exact .name (mem_sortBy.mpr (List.mem_map.mpr ⟨_, mem, rfl⟩))
  | value mem _ ih =>
    rw [Json.sortKeys, sortKeysFields_eq]
    exact .value (mem_sortBy.mpr (List.mem_map.mpr ⟨_, mem, rfl⟩)) ih

end Json

lemma infix_separated (separator : List Char) {part : List Char} {parts : List (List Char)}
    (mem : part ∈ parts) :
    part <:+: separated separator parts := by
  induction parts with
  | nil => cases mem
  | cons first rest ih =>
    cases rest with
    | nil =>
      rw [List.mem_singleton.mp mem]
      exact List.infix_refl _
    | cons second rest =>
      rw [separated]
      cases List.mem_cons.mp mem with
      | inl same =>
        rw [same, List.append_assoc]
        exact (List.prefix_append _ _).isInfix
      | inr later => exact (ih later).trans (List.suffix_append _ _).isInfix
      · exact nofun

/-- A string nested in a value is quoted in its rendering. -/
theorem quote_nested {number : ℚ → List Char} {text : String} {value : Json}
    (h : Json.Nested text value) : quote text.toList <:+: value.dumps number := by
  induction h with
  | here => rw [Json.dumps]
  | item mem _ ih =>
    rw [Json.dumps, Json.dumpsItems_eq]
    have inside := infix_separated [',', ' '] (List.mem_map_of_mem (f := Json.dumps number) mem)
    exact (ih.trans inside).trans (List.infix_append _ _ _)
  | @name fields member mem =>
    rw [Json.dumps, Json.dumpsFields_eq]
    have inside := infix_separated [',', ' '] (List.mem_map_of_mem
      (f := fun field : String × Json => quote field.1.toList ++ [':', ' '] ++ field.2.dumps number) mem)
    have first := (List.prefix_append (quote text.toList ++ [':', ' ']) (member.dumps number)).isInfix
    have whole := (List.prefix_append (quote text.toList) [':', ' ']).isInfix.trans first
    exact (whole.trans inside).trans (List.infix_append _ _ _)
  | @value fields name member mem _ ih =>
    rw [Json.dumps, Json.dumpsFields_eq]
    have inside := infix_separated [',', ' '] (List.mem_map_of_mem
      (f := fun field : String × Json => quote field.1.toList ++ [':', ' '] ++ field.2.dumps number) mem)
    have last := ih.trans (List.suffix_append (quote name.toList ++ [':', ' ']) (member.dumps number)).isInfix
    exact (last.trans inside).trans (List.infix_append _ _ _)

/-- The characters `json.dumps` writes as they are. -/
def writtenPlain (c : Char) : Bool := escapeChar c = [c]

lemma escape_plain {w : List Char} (plain : ∀ c ∈ w, writtenPlain c = true) :
    w.flatMap escapeChar = w := by
  induction w with
  | nil => rfl
  | cons c w ih =>
    have hc : escapeChar c = [c] := by simpa [writtenPlain] using plain c (List.mem_cons_self ..)
    rw [List.flatMap_cons, hc, ih fun d hd => plain d (List.mem_cons_of_mem _ hd)]
    rfl

/-- A plain part of a text is a part of its quotation. -/
lemma quote_infix {a w b : List Char} (plain : ∀ c ∈ w, writtenPlain c = true) :
    quote (a ++ w ++ b) =
      (['"'] ++ a.flatMap escapeChar) ++ w ++ (b.flatMap escapeChar ++ ['"']) := by
  rw [quote, List.flatMap_append, List.flatMap_append, escape_plain plain]
  simp only [List.append_assoc]

end ClientEngagement
