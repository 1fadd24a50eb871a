import ClientEngagement.Lib.Dict
import ClientEngagement.Lib.KeyOrder

/-!
# Versioned configuration components

Model of `rules/versioning.py` and of the selection the stores share. A component is one table whose
rows carry a version, a status and a validity window; `ComponentSpec` says whether the table has a
key column and which columns its UNIQUE constraint covers, and `Store` carries that constraint as a
field. The pointer table `active_configuration` is the dictionary `active`, one entry per key.

A row of a table without key column carries `defaultComponentKey`. Dates are day numbers and
timestamps microseconds. An operation that raises leaves the store as it was, since the caller rolls
the session back.
-/

namespace ClientEngagement.Rules

abbrev Date := ℤ
abbrev Instant := ℤ

/-- `DEFAULT_COMPONENT_KEY`. -/
def defaultComponentKey : String := "default"

inductive Status where
  | draft
  | published
  | archived
deriving DecidableEq, Repr

/-- A row of a component table; `content` is what `_content` keeps of it. -/
structure Row (ν : Type*) where
  version : ℤ
  key : String
  status : Status
  validFrom : Option Date
  validTo : Option Date
  createdBy : Option String := none
  publishedBy : Option String := none
  publishedAt : Option Instant := none
  content : ν
deriving DecidableEq, Repr

/-- How a component table is addressed (`ComponentSpec`). -/
structure ComponentSpec (ν ι : Type*) where
  keyed : Bool
  uniqueKey : ℤ → String → ν → ι

inductive VersioningError where
  | invalid (reason : String)
  | versionExists (version : ℤ)
  | emptyDraft
  | unknownVersion (version : ℤ) (componentKey : String)
  | notDraft (version : ℤ) (componentKey : String)
  | alreadyPublished (version : ℤ) (componentKey : String)
  | uniqueViolation
deriving DecidableEq, Repr

variable {ν ι : Type*}

namespace Row

/-- Published and open-ended. -/
def isLive (r : Row ν) : Bool := r.status = .published ∧ r.validTo = none

/-- The row's window has started and not ended. -/
def inForce (r : Row ν) (date : Date) : Bool :=
  r.validFrom.any (· ≤ date) && r.validTo.all (date < ·)

/-- The selection order: the latest start wins, then the higher version. -/
def rank (r : Row ν) : ℤ ×ₗ ℤ := toLex (r.validFrom.getD 0, r.version)

end Row

namespace ComponentSpec

/-- Whether an operation on `componentKey` reaches a row. -/
def addresses (spec : ComponentSpec ν ι) (componentKey : String) (r : Row ν) : Bool :=
  !spec.keyed || r.key = componentKey

def rowKey (spec : ComponentSpec ν ι) (r : Row ν) : ι := spec.uniqueKey r.version r.key r.content

/-- The key a new row carries. -/
def keyOf (spec : ComponentSpec ν ι) (componentKey : String) : String :=
  if spec.keyed then componentKey else defaultComponentKey

end ComponentSpec

/-- The values of one draft row; a caller may set the window as well. -/
structure DraftValues (ν : Type*) where
  content : ν
  validFrom : Option Date := none
  validTo : Option Date := none

def DraftValues.row (spec : ComponentSpec ν ι) (componentKey : String) (version : ℤ)
    (createdBy : Option String) (values : DraftValues ν) : Row ν where
  version := version
  key := spec.keyOf componentKey
  status := .draft
  validFrom := values.validFrom
  validTo := values.validTo
  createdBy := createdBy
  content := values.content

/-- A component table and its pointers. -/
structure Store (spec : ComponentSpec ν ι) where
  rows : List (Row ν)
  active : Dict String ℤ
  unique : (rows.map spec.rowKey).Nodup

namespace Store

variable {spec : ComponentSpec ν ι}

def empty (spec : ComponentSpec ν ι) : Store spec := ⟨[], .empty, List.nodup_nil⟩

/-- The rows of one version (`_rows_for`). -/
def rowsFor (s : Store spec) (componentKey : String) (version : ℤ) : List (Row ν) :=
  s.rows.filter fun r => r.version = version ∧ spec.addresses componentKey r

/-- The rows a publish closes (`_live_rows`). -/
def liveRows (s : Store spec) (componentKey : String) : List (Row ν) :=
  s.rows.filter fun r => r.isLive ∧ spec.addresses componentKey r

/-- One more than the highest version of the component (`_next_version`). -/
def nextVersion (s : Store spec) (componentKey : String) : ℤ :=
  ((s.rows.filter (spec.addresses componentKey)).map Row.version).max?.getD 0 + 1

/-- Table-wide (`version_exists`). -/
def versionExists (s : Store spec) (version : ℤ) : Bool := s.rows.any (·.version = version)

/-- `_set_active_version`. -/
def setActiveVersion (s : Store spec) (componentKey : String) (version : ℤ) : Store spec :=
  { s with active := s.active.set componentKey version }

/-- `session.add_all` and `session.flush`: the UNIQUE constraint decides. -/
def insertRows [DecidableEq ι] (s : Store spec) (new : List (Row ν)) :
    Except VersioningError (Store spec) :=
  if h : ((s.rows ++ new).map spec.rowKey).Nodup then .ok ⟨s.rows ++ new, s.active, h⟩
  else .error .uniqueViolation

/-- Adds a draft under the next version (`save_draft`). -/
def saveDraft [DecidableEq ι] (s : Store spec) (componentKey : String)
    (values : List (DraftValues ν)) (createdBy : Option String) :
    Except VersioningError (Store spec) :=
  if values = [] then .error .emptyDraft
  else s.insertRows (values.map fun row =>
    row.row spec componentKey (s.nextVersion componentKey) createdBy)

/-- What a publish of `version` makes of a row. -/
def publishRow (spec : ComponentSpec ν ι) (componentKey : String) (version : ℤ)
    (publishedBy : Option String) (date : Date) (now : Instant) (r : Row ν) : Row ν :=
  if r.version = version ∧ spec.addresses componentKey r then
    { r with
      status := .published
      validFrom := some date
      validTo := none
      publishedBy := publishedBy
      publishedAt := some now }
  else if r.isLive ∧ spec.addresses componentKey r then { r with validTo := some date }
  else r

lemma rowKey_publishRow (componentKey : String) (version : ℤ) (publishedBy : Option String)
    (date : Date) (now : Instant) (r : Row ν) :
    spec.rowKey (publishRow spec componentKey version publishedBy date now r) = spec.rowKey r := by
  simp only [publishRow]
  split_ifs <;> rfl

lemma map_rowKey_publishRow (componentKey : String) (version : ℤ) (publishedBy : Option String)
    (date : Date) (now : Instant) (rows : List (Row ν)) :
    (rows.map (publishRow spec componentKey version publishedBy date now)).map spec.rowKey =
      rows.map spec.rowKey := by
  rw [List.map_map]
  exact List.map_congr_left fun r _ => rowKey_publishRow ..

/-- Closes the live rows, opens the draft and moves the pointer (`publish`). -/
def publish (s : Store spec) (componentKey : String) (version : ℤ) (publishedBy : Option String)
    (date : Date) (now : Instant) : Except VersioningError (Store spec) :=
  if s.rowsFor componentKey version = [] then .error (.unknownVersion version componentKey)
  else if (s.rowsFor componentKey version).any (·.status ≠ .draft) then
    .error (.notDraft version componentKey)
  else .ok
    { rows := s.rows.map (publishRow spec componentKey version publishedBy date now)
      active := s.active.set componentKey version
      unique := by
        rw [map_rowKey_publishRow]
        exact s.unique }

/-- Deletes the rows of a draft (`discard_draft`). -/
def discardDraft (s : Store spec) (componentKey : String) (version : ℤ) :
    Except VersioningError (Store spec) :=
  if s.rowsFor componentKey version = [] then .error (.unknownVersion version componentKey)
  else if (s.rowsFor componentKey version).any (·.status ≠ .draft) then
    .error (.alreadyPublished version componentKey)
  else .ok
    { s with
      rows := s.rows.filter fun r => ¬ (r.version = version ∧ spec.addresses componentKey r)
      unique := s.unique.sublist (List.filter_sublist.map _) }

/-- A published row of a new version. -/
def publishedRow (version : ℤ) (validFrom : Date) (validTo : Option Date) (publishedAt : Instant)
    (key : String) (content : ν) : Row ν where
  version := version
  key := key
  status := .published
  validFrom := some validFrom
  validTo := validTo
  publishedAt := some publishedAt
  content := content

/-- What the stores' own save functions share: refuse an invalid set or a version in use, insert the
    rows as published and, when the window is open, point the given keys at the version. -/
def saveVersion [DecidableEq ι] (s : Store spec) (validated : Except String Unit) (version : ℤ)
    (items : List (String × ν)) (pointers : List String) (validFrom : Date)
    (validTo : Option Date) (publishedAt : Instant) : Except VersioningError (Store spec) :=
  match validated with
  | .error reason => .error (.invalid reason)
  | .ok () =>
    if s.versionExists version then .error (.versionExists version)
    else
      (s.insertRows (items.map fun (key, content) =>
        publishedRow version validFrom validTo publishedAt key content)).map fun s' =>
          if validTo = none then pointers.foldl (fun s key => s.setActiveVersion key version) s'
          else s'

end Store

/-! ## Selection -/

/-- The version in force on a date: the latest start, then the higher version. -/
def activeVersion (rows : List (Row ν)) (date : Date) : Option ℤ :=
  (minBy (fun r => OrderDual.toDual r.rank) (rows.filter (·.inForce date))).map Row.version

/-- The rows of the version in force. -/
def activeRows (rows : List (Row ν)) (date : Date) : List (Row ν) :=
  match activeVersion rows date with
  | none => []
  | some version => rows.filter (·.version = version)

/-! ## The admin summary -/

structure VersionSummary where
  version : ℤ
  status : Status
  validFrom : Option Date
  validTo : Option Date
  createdBy : Option String
  publishedBy : Option String
  publishedAt : Option Instant
  rowCount : ℕ
deriving DecidableEq, Repr

/-- One entry per version, in order, read off the version's first row. -/
def summaries (byVersion : Dict ℤ (List (Row ν))) : List VersionSummary :=
  (sortBy Prod.fst byVersion.items).filterMap fun (version, rows) =>
    rows.head?.map fun first =>
      { version := version
        status := first.status
        validFrom := first.validFrom
        validTo := first.validTo
        createdBy := first.createdBy
        publishedBy := first.publishedBy
        publishedAt := first.publishedAt
        rowCount := rows.length }

structure BootstrapEntry (ν : Type*) where
  summaries : List VersionSummary
  liveVersion : Option ℤ
  pendingVersion : Option ℤ
  content : Dict ℤ (List ν)

/-- The first version whose first row is live. -/
def liveVersion (byVersion : Dict ℤ (List (Row ν))) : Option ℤ :=
  (byVersion.items.find? fun (_, rows) => rows.head?.any Row.isLive).map Prod.fst

def pendingVersion (byVersion : Dict ℤ (List (Row ν))) : Option ℤ :=
  ((byVersion.items.filter fun (_, rows) => rows.head?.any (·.status = .draft)).map Prod.fst).max?

/-- One key's entry of `bootstrap`. `scan` lists the table in the order the database returned it. -/
def bootstrap (scan : List (Row ν)) (key : String) : BootstrapEntry ν :=
  let byVersion := Dict.groupBy Row.version (scan.filter (·.key = key))
  let live := liveVersion byVersion
  let pending := pendingVersion byVersion
  { summaries := summaries byVersion
    liveVersion := live
    pendingVersion := pending
    content := .ofList ((live.toList ++ pending.toList).map fun version =>
      (version, (byVersion.getD version []).map Row.content)) }

end ClientEngagement.Rules
