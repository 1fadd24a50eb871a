import ClientEngagement.Lib.Dict
import ClientEngagement.Lib.MapM

/-!
# Format strings

Python's `str.format` with named arguments, over the split of `string.Formatter.parse`: literal text with doubled
braces, replacement fields with a conversion and a format spec, and fields nested in a spec, one level deep. A format
spec is read into its parts, and texts and whole numbers take some specs and not others. `Expands` says what a spec
becomes once its nested fields are filled in, and `format_iff` exactly when a template can be formatted.
-/

namespace ClientEngagement.Format

/-! ## The split -/

/-- A replacement field. -/
structure Field where
  name : List Char
  conversion : Option Char := none
  spec : List Char := []
deriving DecidableEq

inductive Markup where
  | char (c : Char)
  | field (field : Field)
deriving DecidableEq

/-- Where a scan is, with what it has read of a field. -/
inductive Scan where
  | text
  /-- After an opening brace. -/
  | opened
  /-- After a closing brace. -/
  | closed
  | name (bracketed : Bool) (name : List Char)
  | conversion (name : List Char)
  | converted (name : List Char) (conversion : Char)
  | spec (name : List Char) (conversion : Option Char) (depth : ℕ) (spec : List Char)

def singleBrace (brace : Char) : String := "Single '" ++ brace.toString ++ "' encountered in format string"

/-- A character of a field's name. -/
def scanName (name : List Char) (c : Char) : Except String (Option Markup × Scan) :=
  if c = '{' then .error ("unexpected '" ++ c.toString ++ "' in field name")
  else if c = '[' then .ok (none, .name true (name ++ [c]))
  else if c = '}' then .ok (some (.field { name := name }), .text)
  else if c = '!' then .ok (none, .conversion name)
  else if c = ':' then .ok (none, .spec name none 0 [])
  else .ok (none, .name false (name ++ [c]))

def scanChar : Scan → Char → Except String (Option Markup × Scan)
  | .text, c =>
    if c = '{' then .ok (none, .opened)
    else if c = '}' then .ok (none, .closed)
    else .ok (some (.char c), .text)
  | .opened, c => if c = '{' then .ok (some (.char c), .text) else scanName [] c
  | .closed, c => if c = '}' then .ok (some (.char c), .text) else .error (singleBrace '}')
  -- a bracket hides everything up to its end
  | .name true name, c => .ok (none, .name (c ≠ ']') (name ++ [c]))
  | .name false name, c => scanName name c
  | .conversion name, c => .ok (none, .converted name c)
  | .converted name conversion, c =>
    if c = '}' then .ok (some (.field { name := name, conversion := some conversion }), .text)
    else if c = ':' then .ok (none, .spec name (some conversion) 0 [])
    else .error "expected ':' after conversion specifier"
  | .spec name conversion depth spec, c =>
    if c = '{' then .ok (none, .spec name conversion (depth + 1) (spec ++ [c]))
    else if c = '}' then
      match depth with
      | 0 => .ok (some (.field { name := name, conversion := conversion, spec := spec }), .text)
      | depth + 1 => .ok (none, .spec name conversion depth (spec ++ [c]))
    else .ok (none, .spec name conversion depth (spec ++ [c]))

/-- The end of the template. -/
def scanEnd : Scan → Except String Unit
  | .text => .ok ()
  | .opened => .error (singleBrace '{')
  | .closed => .error (singleBrace '}')
  | .name _ _ => .error ("expected '" ++ '}'.toString ++ "' before end of string")
  | .conversion _ => .error "end of string while looking for conversion specifier"
  | .converted _ _ | .spec _ _ _ _ => .error ("unmatched '" ++ '{'.toString ++ "' in format spec")

def parseFrom : Scan → List Char → Except String (List Markup)
  | scan, [] => (scanEnd scan).map fun _ => []
  | scan, c :: rest => (scanChar scan c).bind fun (out, scan) => (parseFrom scan rest).map (out.toList ++ ·)

/-- `string.Formatter.parse`. -/
def parse (template : List Char) : Except String (List Markup) := parseFrom .text template

def fieldsOf (items : List Markup) : List Field :=
  items.filterMap fun
    | .char _ => none
    | .field field => some field

/-- The fields of a template, none where it cannot be split. -/
def fieldsIn (template : List Char) : List Field := ((parse template).toOption.map fieldsOf).getD []

/-! ## Format specs -/

structure FormatSpec where
  fill : Char
  align : Char
  sign : Option Char
  noNegativeZero : Bool
  alternate : Bool
  width : Option ℕ
  comma : Bool
  underscore : Bool
  precision : Option ℕ
  type : Char

def isAlign (c : Char) : Bool := c ∈ ['<', '>', '=', '^']

/-- The fill and the alignment in front of a spec. -/
def readAlign : List Char → (Option Char × Option Char) × List Char
  | fill :: align :: rest =>
    if isAlign align then ((some fill, some align), rest)
    else if isAlign fill then ((none, some fill), align :: rest)
    else ((none, none), fill :: align :: rest)
  | [c] => if isAlign c then ((none, some c), []) else ((none, none), [c])
  | [] => ((none, none), [])

/-- One of the given characters, if it is there. -/
def readOne (among : List Char) : List Char → Option Char × List Char
  | c :: rest => if c ∈ among then (some c, rest) else (none, c :: rest)
  | [] => (none, [])

def readFlag (flag : Char) (spec : List Char) : Bool × List Char :=
  ((readOne [flag] spec).1.isSome, (readOne [flag] spec).2)

/-- The largest number `get_integer` reads. -/
def maxInteger : ℕ := 2 ^ 63 - 1

/-- A number, if there are digits: an error where it is too large. -/
def readInteger (decimal : Char → Option ℕ) (spec : List Char) : Option (Option ℕ × List Char) :=
  let digits := spec.takeWhile fun c => (decimal c).isSome
  let value := digits.foldl (fun value c => 10 * value + (decimal c).getD 0) 0
  if digits.isEmpty then some (none, spec)
  else if value ≤ maxInteger then some (some value, spec.drop digits.length)
  else none

/-- The type a thousands separator goes with. -/
def takesSeparator (underscore : Bool) (type : Char) : Bool :=
  type ∈ ['d', 'e', 'f', 'g', 'E', 'G', '%', 'F'] ∨ (underscore ∧ type ∈ ['b', 'o', 'x', 'X'])

/-- `[[fill]align][sign]["z"]["#"]["0"][width][grouping]["." precision][type]`. -/
def FormatSpec.read (decimal : Char → Option ℕ) (defaultType defaultAlign : Char) (spec : List Char) :
    Option FormatSpec := do
  let ((fill, align), rest) := readAlign spec
  let (sign, rest) := readOne [' ', '+', '-'] rest
  let (noNegativeZero, rest) := readFlag 'z' rest
  let (alternate, rest) := readFlag '#' rest
  let (zero, rest) := if fill.isNone then readFlag '0' rest else (false, rest)
  let (width, rest) ← readInteger decimal rest
  let (comma, rest) := readFlag ',' rest
  let (underscore, rest) := readFlag '_' rest
  guard ¬ (underscore ∧ (comma ∨ rest.head? = some ','))
  let (point, rest) := readFlag '.' rest
  let (precision, rest) ← if point then readInteger decimal rest else some (none, rest)
  guard (point → precision.isSome)
  let type ← match rest with
    | [] => some defaultType
    | [type] => some type
    | _ => none
  guard ((comma ∨ underscore) → takesSeparator underscore type)
  return {
    fill := fill.getD (if zero then '0' else ' ')
    align := align.getD (if zero ∧ defaultAlign = '>' then '=' else defaultAlign)
    sign := sign
    noNegativeZero := noNegativeZero
    alternate := alternate
    width := width
    comma := comma
    underscore := underscore
    precision := precision
    type := type }

/-- What `str.__format__` accepts. -/
def FormatSpec.takesText (f : FormatSpec) : Bool :=
  f.type = 's' ∧ f.sign = none ∧ ¬ f.noNegativeZero ∧ ¬ f.alternate ∧ f.align ≠ '='

/-- The least whole number too large for a float. -/
def floatBound : ℕ := 2 ^ 1024 - 2 ^ 970

/-- What `int.__format__` accepts of a number. -/
def FormatSpec.takesNumber (f : FormatSpec) (n : ℤ) : Bool :=
  if f.type ∈ ['b', 'c', 'd', 'o', 'x', 'X', 'n'] then
    f.precision = none ∧ ¬ f.noNegativeZero ∧
      (f.type = 'c' → f.sign = none ∧ ¬ f.alternate ∧ 0 ≤ n ∧ n ≤ 0x10ffff)
  else if f.type ∈ ['e', 'E', 'f', 'F', 'g', 'G', '%'] then
    n.natAbs < floatBound ∧ f.precision.all (· < 2 ^ 31)
  else false

/-- A text cut to the precision and filled up to the width. -/
def FormatSpec.layText (f : FormatSpec) (text : List Char) : List Char :=
  let cut := f.precision.elim text text.take
  let missing := f.width.getD 0 - cut.length
  let left := if f.align = '>' then missing else if f.align = '^' then missing / 2 else 0
  List.replicate left f.fill ++ cut ++ List.replicate (missing - left) f.fill

/-! ## Formatting -/

/-- What a field is filled with. -/
inductive Value (ω : Type*) where
  | text (text : List Char)
  | number (n : ℤ)
  | other (object : ω)

/-- What Python knows of characters and objects. -/
structure Python (ω : Type*) where
  /-- The value of a decimal digit. -/
  decimal : Char → Option ℕ
  decimal_alpha : ∀ c, c.isAlpha = true → decimal c = none
  /-- How a number is laid out by a spec it takes. -/
  numeral : FormatSpec → ℤ → List Char
  str : ω → List Char
  repr : Value ω → List Char
  ascii : Value ω → List Char
  /-- The attributes and elements a field's name goes on to. -/
  reach : Value ω → List Char → Option (Value ω)
  reach_nil : ∀ value, reach value [] = some value
  formatObject : ω → List Char → Option (List Char)

variable {ω : Type*}

def Python.strOf (p : Python ω) : Value ω → List Char
  | .text text => text
  | .number n => (toString n).toList
  | .other object => p.str object

/-- The value of a field's name; there are no positional arguments. -/
def fieldObject (p : Python ω) (values : Dict String (Value ω)) (name : List Char) : Option (Value ω) :=
  let first := name.takeWhile fun c => c ≠ '.' ∧ c ≠ '['
  if first.all fun c => (p.decimal c).isSome then none
  else (values.get? (String.ofList first)).bind fun value => p.reach value (name.drop first.length)

/-- `!s`, `!r` or `!a`. -/
def convert (p : Python ω) (conversion : Option Char) (value : Value ω) : Option (Value ω) :=
  match conversion with
  | none => some value
  | some 's' => some (.text (p.strOf value))
  | some 'r' => some (.text (p.repr value))
  | some 'a' => some (.text (p.ascii value))
  | some _ => none

/-- `format(value, spec)`. -/
def formatValue (p : Python ω) (value : Value ω) (spec : List Char) : Option (List Char) :=
  match value with
  | .text text =>
    if spec = [] then some text
    else (FormatSpec.read p.decimal 's' '<' spec).bind fun f => if f.takesText then some (f.layText text) else none
  | .number n =>
    if spec = [] then some (toString n).toList
    else (FormatSpec.read p.decimal 'd' '>' spec).bind fun f => if f.takesNumber n then some (p.numeral f n) else none
  | .other object => p.formatObject object spec

/-- A piece of a template, where `expand` fills in the fields of a spec. -/
def render (p : Python ω) (values : Dict String (Value ω)) (expand : List Char → Option (List Char)) :
    Markup → Option (List Char)
  | .char c => some [c]
  | .field field =>
    (fieldObject p values field.name).bind fun value =>
      (convert p field.conversion value).bind fun value =>
        (if '{' ∈ field.spec then expand field.spec else some field.spec).bind fun spec => formatValue p value spec

/-- A template with so many levels of fields left. -/
def buildString (p : Python ω) (values : Dict String (Value ω)) : ℕ → List Char → Option (List Char)
  | 0, _ => none
  | depth + 1, template =>
    (parse template).toOption.bind fun items =>
      (items.mapM (render p values (buildString p values depth))).map List.flatten

/-- `str.format`, which raises where there is no text. -/
def format (p : Python ω) (values : Dict String (Value ω)) (template : List Char) : Option (List Char) :=
  buildString p values 2 template

/-! ## What can be formatted -/

def conversions : List Char := ['s', 'r', 'a']

/-- The value after a conversion there is. -/
def converted (p : Python ω) (conversion : Option Char) (value : Value ω) : Value ω :=
  match conversion with
  | none => value
  | some 'r' => .text (p.repr value)
  | some 'a' => .text (p.ascii value)
  | some _ => .text (p.strOf value)

/-- The specs a value takes. -/
def Takes (p : Python ω) (value : Value ω) (spec : List Char) : Prop :=
  match value with
  | .text _ => spec = [] ∨ (FormatSpec.read p.decimal 's' '<' spec).any FormatSpec.takesText = true
  | .number n => spec = [] ∨ (FormatSpec.read p.decimal 'd' '>' spec).any (·.takesNumber n) = true
  | .other object => (p.formatObject object spec).isSome = true

/-- What a piece of a spec becomes. -/
inductive Fills (p : Python ω) (values : Dict String (Value ω)) : Markup → List Char → Prop where
  | char (c : Char) : Fills p values (.char c) [c]
  | field {field : Field} {value : Value ω} {text : List Char}
      (named : fieldObject p values field.name = some value) (known : ∀ c ∈ field.conversion, c ∈ conversions)
      (flat : '{' ∉ field.spec) (filled : formatValue p (converted p field.conversion value) field.spec = some text) :
      Fills p values (.field field) text

/-- What a spec becomes once the fields nested in it are filled in. -/
inductive Expands (p : Python ω) (values : Dict String (Value ω)) : List Char → List Char → Prop where
  | flat {spec : List Char} (flat : '{' ∉ spec) : Expands p values spec spec
  | nested {spec : List Char} {items : List Markup} {texts : List (List Char)} (nests : '{' ∈ spec)
      (split : parse spec = .ok items) (filled : List.Forall₂ (Fills p values) items texts) :
      Expands p values spec texts.flatten

variable {p : Python ω} {values : Dict String (Value ω)} {field : Field} {value : Value ω} {spec text : List Char}
  {conversion : Option Char} {template : List Char}

lemma convert_iff {value' : Value ω} : convert p conversion value = some value' ↔
    (∀ c ∈ conversion, c ∈ conversions) ∧ converted p conversion value = value' := by
  cases conversion with
  | none => simp [convert, converted]
  | some c =>
    by_cases s : c = 's'
    · subst s
      simp [convert, converted, conversions]
    · by_cases r : c = 'r'
      · subst r
        simp [convert, converted, conversions]
      · by_cases a : c = 'a'
        · subst a
          simp [convert, converted, conversions]
        · have unknown : convert p (some c) value = none := by
            rw [convert]
            · exact s
            · exact r
            · exact a
          rw [unknown]
          simp [conversions, s, r, a]

/-- A value is formatted by the specs it takes. -/
lemma formatValue_iff : (∃ text, formatValue p value spec = some text) ↔ Takes p value spec := by
  cases value with
  | text text =>
    rw [formatValue, Takes]
    by_cases empty : spec = []
    · simp [empty]
    · cases FormatSpec.read p.decimal 's' '<' spec with
      | none => simp [empty]
      | some f => simp [empty]
  | number n =>
    rw [formatValue, Takes]
    by_cases empty : spec = []
    · simp [empty]
    · cases FormatSpec.read p.decimal 'd' '>' spec with
      | none => simp [empty]
      | some f => simp [empty]
  | other object => exact Option.isSome_iff_exists.symm

/-- A field is rendered by the spec it expands to. -/
lemma render_field_iff {expand : List Char → Option (List Char)} : render p values expand (.field field) = some text ↔
    ∃ value, fieldObject p values field.name = some value ∧ (∀ c ∈ field.conversion, c ∈ conversions) ∧
      ∃ spec, (if '{' ∈ field.spec then expand field.spec else some field.spec) = some spec ∧
        formatValue p (converted p field.conversion value) spec = some text := by
  simp only [render, Option.bind_eq_some_iff, convert_iff]
  constructor
  · rintro ⟨value, named, _, ⟨known, rfl⟩, spec, expanded, filled⟩
    exact ⟨value, named, known, spec, expanded, filled⟩
  · rintro ⟨value, named, known, spec, expanded, filled⟩
    exact ⟨value, named, _, ⟨known, rfl⟩, spec, expanded, filled⟩

lemma buildString_iff {depth : ℕ} : buildString p values (depth + 1) template = some text ↔
    ∃ items texts, parse template = .ok items ∧
      List.Forall₂ (fun item text => render p values (buildString p values depth) item = some text) items texts ∧
      texts.flatten = text := by
  rw [buildString, Option.bind_eq_some_iff]
  constructor
  · rintro ⟨items, split, made⟩
    obtain ⟨texts, rendered, rfl⟩ := Option.map_eq_some_iff.mp made
    cases parsed : parse template with
    | error error =>
      rw [parsed] at split
      cases split
    | ok items' =>
      rw [parsed] at split
      cases split
      exact ⟨items, texts, rfl, mapM_eq_some_iff.mp rendered, rfl⟩
  · rintro ⟨items, texts, split, rendered, rfl⟩
    rw [split]
    exact ⟨items, rfl, Option.map_eq_some_iff.mpr ⟨texts, mapM_eq_some_iff.mpr rendered, rfl⟩⟩

/-- In a spec no field nests another. -/
lemma render_nested_iff {item : Markup} :
    render p values (buildString p values 0) item = some text ↔ Fills p values item text := by
  cases item with
  | char c =>
    constructor
    · intro same
      cases same
      exact .char c
    · intro fills
      cases fills
      rfl
  | field field =>
    rw [render_field_iff]
    constructor
    · rintro ⟨value, named, known, spec, expanded, filled⟩
      split at expanded
      · cases expanded
      · rename_i flat
        cases expanded
        exact .field named known flat filled
    · intro fills
      cases fills with
      | field named known flat filled => exact ⟨_, named, known, _, if_neg flat, filled⟩

lemma expand_iff {spec' : List Char} :
    (if '{' ∈ spec then buildString p values 1 spec else some spec) = some spec' ↔ Expands p values spec spec' := by
  by_cases nests : '{' ∈ spec
  · rw [if_pos nests, buildString_iff]
    simp only [render_nested_iff]
    constructor
    · rintro ⟨items, texts, split, filled, rfl⟩
      exact .nested nests split filled
    · intro expands
      cases expands with
      | flat flat => exact absurd nests flat
      | nested _ split filled => exact ⟨_, _, split, filled, rfl⟩
  · rw [if_neg nests]
    constructor
    · intro same
      cases same
      exact .flat nests
    · intro expands
      cases expands with
      | flat _ => rfl
      | nested nested _ _ => exact absurd nested nests

/-- A field that can be filled in. -/
structure Fits (p : Python ω) (values : Dict String (Value ω)) (field : Field) : Prop where
  known : ∀ c ∈ field.conversion, c ∈ conversions
  takes : ∃ value spec, fieldObject p values field.name = some value ∧ Expands p values field.spec spec ∧
    Takes p (converted p field.conversion value) spec

lemma fits_iff : (∃ text, render p values (buildString p values 1) (.field field) = some text) ↔
    Fits p values field := by
  simp only [render_field_iff, expand_iff]
  constructor
  · rintro ⟨text, value, named, known, spec, expands, filled⟩
    exact ⟨known, value, spec, named, expands, formatValue_iff.mp ⟨text, filled⟩⟩
  · rintro ⟨known, value, spec, named, expands, takes⟩
    obtain ⟨text, filled⟩ := formatValue_iff.mpr takes
    exact ⟨text, value, named, known, spec, expands, filled⟩

lemma mem_fieldsOf {items : List Markup} : field ∈ fieldsOf items ↔ Markup.field field ∈ items := by
  rw [fieldsOf, List.mem_filterMap]
  constructor
  · rintro ⟨item, mem, same⟩
    cases item with
    | char c => cases same
    | field other =>
      cases same
      exact mem
  · exact fun mem => ⟨_, mem, rfl⟩

/-- A template can be formatted when each of its fields can be filled in. -/
theorem format_iff {items : List Markup} (split : parse template = .ok items) :
    (∃ text, format p values template = some text) ↔ ∀ field ∈ fieldsOf items, Fits p values field := by
  have each : (∃ text, format p values template = some text) ↔
      ∀ item ∈ items, ∃ text, render p values (buildString p values 1) item = some text := by
    rw [← exists_mapM_iff, format, buildString, split]
    simp only [Except.toOption, Option.bind_some, Option.map_eq_some_iff]
    exact ⟨fun ⟨_, texts, made, _⟩ => ⟨texts, made⟩, fun ⟨texts, made⟩ => ⟨_, texts, made, rfl⟩⟩
  rw [each]
  constructor
  · intro rendered field mem
    exact fits_iff.mp (rendered _ (mem_fieldsOf.mp mem))
  · intro fits item mem
    cases item with
    | char c => exact ⟨[c], rfl⟩
    | field field => exact fits_iff.mpr (fits field (mem_fieldsOf.mpr mem))

/-! ## Plain names -/

/-- A name without attributes and elements that is not a number. -/
def isPlain (name : List Char) : Bool := name.all (fun c => c ≠ '.' ∧ c ≠ '[') && name.any Char.isAlpha

lemma fieldObject_plain {name : List Char} (plain : isPlain name = true) :
    fieldObject p values name = values.get? (String.ofList name) := by
  rw [isPlain, Bool.and_eq_true, List.all_eq_true, List.any_eq_true] at plain
  obtain ⟨path, c, mem, alpha⟩ := plain
  have first : name.takeWhile (fun c => c ≠ '.' ∧ c ≠ '[') = name := List.takeWhile_eq_self_iff.mpr path
  have named : ¬ (name.all fun c => (p.decimal c).isSome) = true := by
    intro number
    have digit := List.all_eq_true.mp number c mem
    rw [p.decimal_alpha c alpha] at digit
    cases digit
  rw [fieldObject]
  simp only [first, if_neg named, List.drop_length, p.reach_nil]
  exact Option.bind_fun_some _

/-- Without a name there is a positional argument to look up, and there are none. -/
lemma fieldObject_nil : fieldObject p values [] = none := rfl

/-- A text or a number. -/
def Value.isOwn : Value ω → Bool
  | .text _ | .number _ => true
  | .other _ => false

/-- Texts and numbers take no spec, also once they are converted. -/
lemma takes_nil (own : value.isOwn = true) : Takes p (converted p conversion value) [] := by
  cases filled : converted p conversion value with
  | text text => exact .inl rfl
  | number n => exact .inl rfl
  | other object =>
    unfold converted at filled
    split at filled
    · rw [filled] at own
      cases own
    · cases filled
    · cases filled
    · cases filled

end ClientEngagement.Format
