import Mathlib

/-!
# JSON values

JSON values as Python reads them: an object is its list of members, numbers are exact, and a boolean
counts as a number. `Json.members?` is what `set(value)` holds when all of it is text, `iter?` what
iterating over the value yields.
-/

namespace ClientEngagement

inductive Json where
  | null
  | bool (value : Bool)
  | num (value : ℚ)
  | str (text : String)
  | arr (items : List Json)
  | obj (fields : List (String × Json))

namespace Json

def text? : Json → Option String
  | .str text => some text
  | _ => none

/-- A number, or a boolean as one. -/
def number? : Json → Option ℚ
  | .num value => some value
  | .bool value => some (if value then 1 else 0)
  | _ => none

/-- What iterating over a value yields, when it is text throughout. -/
def members? : Json → Option (List String)
  | .arr items => items.mapM text?
  | .obj fields => some (fields.map Prod.fst)
  | .str text => some (text.toList.map String.singleton)
  | _ => none

/-- A member of an object; a later one of the same name wins. -/
def field? (name : String) : Json → Option Json
  | .obj fields => fields.reverse.lookup name
  | _ => none

/-- Whether Python counts the value as true. -/
def truthy : Json → Bool
  | .null => false
  | .bool value => value
  | .num value => value ≠ 0
  | .str text => text ≠ ""
  | .arr items => !items.isEmpty
  | .obj fields => !fields.isEmpty

/-- What iterating over a value yields. -/
def iter? : Json → Option (List Json)
  | .arr items => some items
  | .obj fields => some (fields.map fun field => .str field.1)
  | .str text => some (text.toList.map fun c => .str (String.singleton c))
  | _ => none

/-- Python's `str`; `repr` is what it prints for a number, a list or an object. -/
def pyStr (repr : Json → String) : Json → String
  | .null => "None"
  | .bool value => if value then "True" else "False"
  | .str text => text
  | value => repr value

/-- A list of texts. -/
def texts (items : List String) : Json := .arr (items.map .str)

@[simp] lemma members?_texts (items : List String) : (texts items).members? = some items := by
  induction items with
  | nil => rfl
  | cons item items ih =>
    simp only [members?, texts, List.map_cons, List.mapM_cons] at ih ⊢
    rw [ih]
    rfl

end Json

end ClientEngagement
