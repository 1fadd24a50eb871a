import ClientEngagement.Rules.Selection

/-!
# The angle catalogue

Model of `rules/catalog.py`: `validateAngles` (`validate_angles`), `saveCatalogVersion`
(`save_catalog_version`) and the loaders `loadActiveAngles`, `loadAngle` and `angleIsHeld`. The
table is keyed by angle, one row per version and angle (`keyedSpec`). `load_iff` says which row a
loader of a keyed table returns.
-/

namespace ClientEngagement.Rules

/-- A component whose table has a key column, unique together with the version. -/
def keyedSpec (ν : Type*) : ComponentSpec ν (ℤ × String) where
  keyed := true
  uniqueKey := fun version key _ => (version, key)

/-- What Python's `str.isspace` accepts. -/
def isSpace (c : Char) : Bool :=
  c.val ∈ ([0x09, 0x0a, 0x0b, 0x0c, 0x0d, 0x1c, 0x1d, 0x1e, 0x1f, 0x20, 0x85, 0xa0, 0x1680, 0x2000,
    0x2001, 0x2002, 0x2003, 0x2004, 0x2005, 0x2006, 0x2007, 0x2008, 0x2009, 0x200a, 0x2028, 0x2029,
    0x202f, 0x205f, 0x3000] : List UInt32)

/-- `not text.strip()`. -/
def isBlank (text : String) : Bool := text.toList.all isSpace

/-- A list of plain names as Python prints it. -/
def reprNames (names : List String) : String :=
  "[" ++ ", ".intercalate (names.map fun name => "'" ++ name ++ "'") ++ "]"

/-- One angle's brief, as a caller gives it. -/
structure AngleSpec where
  angle : String
  headline : String
  who : String
  claim : String
  ask : String
  never : String
  use : String
  held : Bool := false
  cta : Option String := none
  family : Option String := none
  tone : Option String := none
deriving DecidableEq, Repr

/-- The brief as a catalogue row stores it; the first version has no `use`. -/
structure AngleBrief where
  headline : String
  who : String
  claim : String
  ask : String
  never : String
  use : Option String
  held : Bool
  cta : Option String
  family : Option String
  tone : Option String
deriving DecidableEq, Repr

def AngleSpec.brief (spec : AngleSpec) : AngleBrief where
  headline := spec.headline
  who := spec.who
  claim := spec.claim
  ask := spec.ask
  never := spec.never
  use := some spec.use
  held := spec.held
  cta := spec.cta
  family := spec.family
  tone := spec.tone

/-- `_REQUIRED_FIELDS`. -/
def requiredFields : List (String × (AngleSpec → String)) :=
  [("angle", AngleSpec.angle), ("headline", AngleSpec.headline), ("who", AngleSpec.who),
    ("claim", AngleSpec.claim), ("ask", AngleSpec.ask), ("never", AngleSpec.never),
    ("use", AngleSpec.use)]

/-- The first empty field of an angle, as an error text. -/
def emptyField (spec : AngleSpec) : Option String :=
  (requiredFields.find? fun (_, read) => isBlank (read spec)).map fun (field, _) =>
    "angle '" ++ spec.angle ++ "' has an empty '" ++ field ++ "'"

def validateAngles (angles : List AngleSpec) : Except String Unit :=
  if angles = [] then .error "a catalogue may not be empty"
  else
    let identifiers := angles.map AngleSpec.angle
    let duplicates := sortBy id (identifiers.filter fun name => 1 < identifiers.count name).dedup
    if duplicates ≠ [] then
      .error ("angle identifiers must be unique: " ++ reprNames duplicates)
    else
      match angles.findSome? emptyField with
      | some reason => .error reason
      | none => .ok ()

abbrev Catalog := Store (keyedSpec AngleBrief)

/-- Validates and inserts a new catalogue version (`save_catalog_version`). -/
def saveCatalogVersion (s : Catalog) (version : ℤ) (angles : List AngleSpec) (validFrom : Date)
    (validTo : Option Date) (publishedAt : Instant) : Except VersioningError Catalog :=
  s.saveVersion (validateAngles angles) version (angles.map fun spec => (spec.angle, spec.brief))
    (angles.map AngleSpec.angle) validFrom validTo publishedAt

/-- The catalogue version in force (`active_catalog_version`). -/
def activeCatalogVersion (s : Catalog) (date : Date) : Option ℤ := activeVersion s.rows date

/-- The active catalogue by angle (`load_active_angles`). -/
def loadActiveAngles (s : Catalog) (date : Date) : Dict String (Row AngleBrief) :=
  match activeCatalogVersion s date with
  | none => .empty
  | some version => .ofList ((s.rows.filter (·.version = version)).map fun row => (row.key, row))

/-- One angle's row (`load_angle`). -/
def loadAngle (s : Catalog) (angle : String) (date : Date) : Option (Row AngleBrief) :=
  (loadActiveAngles s date).get? angle

/-- Whether an angle's messages are held from sending (`angle_is_held`). -/
def angleIsHeld (s : Catalog) (angle : String) (date : Date) : Bool :=
  (loadAngle s angle date).any (·.content.held)

/-! ## Loading by key -/

variable {ν : Type*} {s : Store (keyedSpec ν)}

/-- No two rows of one version share a key. -/
lemma keys_nodup (s : Store (keyedSpec ν)) (version : ℤ) :
    ((s.rows.filter (·.version = version)).map Row.key).Nodup := by
  have h := s.unique.sublist ((List.filter_sublist (p := (·.version = version))).map _)
  refine List.Nodup.of_map (fun key => (version, key)) ?_
  rw [List.map_map]
  convert h using 1
  apply List.map_congr_left
  intro r hr
  have hv := (List.mem_filter.mp hr).2
  simp only [decide_eq_true_eq] at hv
  simp [ComponentSpec.rowKey, keyedSpec, hv]

/-- A dictionary of the rows of the version in force returns the row of that version and key. -/
lemma get?_activeRows_iff {s : Store (keyedSpec ν)} {date : Date} {version : ℤ}
    {l : List (Row ν)} (hl : l.Perm (s.rows.filter (·.version = version)))
    (ha : activeVersion s.rows date = some version) (key : String) (r : Row ν) :
    (Dict.ofList (l.map fun row => (row.key, row))).get? key = some r ↔
      r ∈ s.rows ∧ r.key = key ∧ activeVersion s.rows date = some r.version := by
  have hnd : ((l.map fun row => (row.key, row)).map Prod.fst).Nodup := by
    rw [List.map_map]
    exact (hl.map Row.key).nodup_iff.mpr (keys_nodup s version)
  rw [Dict.get?_ofList hnd, List.mem_map, ha]
  constructor
  · intro h
    obtain ⟨r', hr', e⟩ := h
    obtain ⟨rfl, rfl⟩ := Prod.mk.inj e
    have := List.mem_filter.mp (hl.mem_iff.mp hr')
    simp only [decide_eq_true_eq] at this
    exact ⟨this.1, rfl, by rw [this.2]⟩
  · intro h
    obtain ⟨hr, rfl, hv⟩ := h
    refine ⟨r, hl.mem_iff.mpr (List.mem_filter.mpr ⟨hr, ?_⟩), rfl⟩
    simpa [eq_comm] using hv

/-- `loadAngle` returns the row of its angle under the version in force. -/
lemma loadAngle_iff {s : Catalog} {angle : String} {date : Date} {r : Row AngleBrief} :
    loadAngle s angle date = some r ↔
      r ∈ s.rows ∧ r.key = angle ∧ activeVersion s.rows date = some r.version := by
  rw [loadAngle, loadActiveAngles, activeCatalogVersion]
  cases e : activeVersion s.rows date with
  | none => simp
  | some version =>
    have h := get?_activeRows_iff (List.Perm.refl _) e angle r
    rw [e] at h
    exact h

end ClientEngagement.Rules
