import ClientEngagement.Lib.Results
import ClientEngagement.Lib.Upsert

/-!
# The two ways to upsert

Model of `upsert` and `upsert_vault` (`transform/load.py`) and of `copy_upsert` (`db/bulk.py`). A few rows go
through `INSERT … ON CONFLICT DO UPDATE` in batches; from `copyMinRows` rows on they are copied into a
temporary table and inserted from there in one statement. A statement (`OnConflict`) is what both share: the
table, the conflict key and what is set of a row that has the key. No table of the repository has a default
that is not the server's. `bulk_equals_insert` says that the way makes no difference.
-/

namespace ClientEngagement.Transform

/-- A value of a column. -/
inductive Value where
  | int (value : ℤ)
  | float (value : ℚ)
  | text (value : String)
  | bool (value : Bool)
  | date (day : ℤ)
  | timestamp (instant : ℤ)
deriving DecidableEq

/-- What a column left out of an insert takes: nothing, a constant, or `now()`. -/
inductive ServerDefault where
  | none
  | value (value : Value)
  | now
deriving DecidableEq

structure Column where
  name : String
  nullable : Bool := true
  serverDefault : ServerDefault := .none

structure Model where
  tablename : String
  columns : List Column

/-- A stored row by column, null where there is no value. -/
abbrev StoredRow := String → Option Value

/-- A table by the values of its conflict key. -/
abbrev Table := Dict (List (Option Value)) StoredRow

/-- The row a caller passes. -/
abbrev RowDict := Dict String (Option Value)

inductive DbError where
  | notNullViolation
  | cardinalityViolation
deriving DecidableEq

/-- What is set of a row that has the conflict key. -/
inductive SetExpr where
  | excluded
  | coalesce
  | now

/-- `INSERT INTO model … ON CONFLICT (index_elements) DO UPDATE SET …`. A column is set once. -/
structure OnConflict where
  model : Model
  indexElements : List String
  set : List (String × SetExpr)
  once : (set.map Prod.fst).Nodup

/-! ## One statement -/

def ServerDefault.eval (now : ℤ) : ServerDefault → Option Value
  | .none => Option.none
  | .value constant => some constant
  | .now => some (.timestamp now)

def Model.default (model : Model) (now : ℤ) (name : String) : Option Value :=
  (model.columns.find? (·.name = name)).bind fun column => column.serverDefault.eval now

/-- The row an insert proposes, its other columns at their defaults. -/
def Model.proposed (model : Model) (now : ℤ) (row : RowDict) : StoredRow := fun name =>
  match row.get? name with
  | none => model.default now name
  | some value => value

/-- A column that may not be null is. -/
def Model.violates (model : Model) (row : StoredRow) : Bool :=
  model.columns.any fun column => !column.nullable && (row column.name).isNone

def SetExpr.eval (now : ℤ) (stored excluded : Option Value) : SetExpr → Option Value
  | .excluded => excluded
  | .coalesce => excluded.or stored
  | .now => some (.timestamp now)

namespace OnConflict

variable (stmt : OnConflict) (now : ℤ)

def keyOf (row : StoredRow) : List (Option Value) := stmt.indexElements.map row

/-- `DO UPDATE SET` of the assignments given. -/
def update (set : List (String × SetExpr)) (stored excluded : StoredRow) : StoredRow := fun name =>
  match set.lookup name with
  | none => stored name
  | some expr => expr.eval now (stored name) (excluded name)

/-- Executes the statement for the rows proposed. -/
def execute (set : List (String × SetExpr)) (table : Table) (rows : List StoredRow) : Except DbError Table :=
  if rows.any stmt.model.violates then .error .notNullViolation
  else if ¬ (rows.map stmt.keyOf).Nodup then .error .cardinalityViolation
  else .ok (table.upsert ⟨id, update now set⟩ (rows.map fun row => (stmt.keyOf row, row)))

/-! ## The two ways -/

/-- `_MAX_BIND_PARAMS` and `_MAX_BATCH_ROWS`. -/
def batchSize (rows : List RowDict) : ℕ :=
  min 1000 (max 1 (65535 / ((rows.head?.map fun row => row.keys.length).getD 0)))

/-- The batches of inserts, the assignments as a dictionary. -/
def insertBatches (size : ℕ) (table : Table) (rows : List RowDict) : Except DbError Table :=
  (slices size rows).foldlM (fun table batch =>
    stmt.execute now (Dict.ofList stmt.set).items table (batch.map (stmt.model.proposed now))) table

/-- What is read back from the columns of a row of the temporary table. -/
def selected (columns : List String) (row : StoredRow) : RowDict :=
  .ofList (columns.map fun name => (name, row name))

/-- `copy_upsert`: the temporary table has the defaults of the target and its columns that may not be null. -/
def copyUpsert (table : Table) (rows : List RowDict) : Except DbError Table :=
  let columns := (rows.head?.map Dict.keys).getD []
  let temp := rows.map fun row => stmt.model.proposed now (selected columns fun name => (row.get? name).join)
  if temp.any stmt.model.violates then .error .notNullViolation
  else
    stmt.execute now stmt.set table (temp.map fun row => stmt.model.proposed now (selected columns row))

/-- Writes the rows, by `COPY` from `copyMinRows` rows on. -/
def run (copyMinRows : ℕ) (table : Table) (rows : List RowDict) : Except DbError Table :=
  if rows = [] then .ok table
  else if copyMinRows ≤ rows.length then stmt.copyUpsert now table rows
  else stmt.insertBatches now (batchSize rows) table rows

end OnConflict

/-- `_COPY_MIN_ROWS`. -/
def copyMinRows : ℕ := 2000

/-- What a caller of `upsert` gives; the extra columns are set to `now()` and are none of the updated ones. -/
structure Target where
  model : Model
  key : List String
  updateColumns : List String
  extraSet : List String := []
  once : (updateColumns ++ extraSet).Nodup

def Target.statement (target : Target) : OnConflict where
  model := target.model
  indexElements := target.key
  set := (target.updateColumns.map fun name => (name, .excluded)) ++
    target.extraSet.map fun name => (name, .now)
  once := by
    rw [List.map_append, List.map_map, List.map_map]
    simpa [Function.comp_def] using target.once

/-- `upsert`, with the number of rows from which on it copies. -/
def upsert (target : Target) (now : ℤ) (minRows : ℕ) (table : Table) (rows : List RowDict) :
    Except DbError Table :=
  target.statement.run now minRows table rows

/-- `Funds`. -/
def funds : Model where
  tablename := "funds"
  columns :=
    [{ name := "unit_fund_id", nullable := false }, { name := "unit_fund_name", nullable := false },
      { name := "inactive_client_count" },
      { name := "updated_at", nullable := false, serverDefault := .now }]

/-- How `persist_result` upserts funds (`_FUND_UPDATE`). -/
def fundsTarget : Target where
  model := funds
  key := ["unit_fund_id"]
  updateColumns := ["unit_fund_name", "inactive_client_count"]
  extraSet := ["updated_at"]
  once := by decide

/-- `PiiVault`. -/
def piiVault : Model where
  tablename := "pii_vault"
  columns :=
    [{ name := "client_id", nullable := false },
      { name := "client_name" }, { name := "contact_email" }, { name := "contact_whatsapp" },
      { name := "contact_phone" },
      { name := "opt_out_flag", nullable := false, serverDefault := .value (.bool false) },
      { name := "source" },
      { name := "updated_at", nullable := false, serverDefault := .now }]

/-- The contact columns of the vault. -/
def contactColumns : List String := ["contact_email", "contact_whatsapp", "contact_phone"]

/-- `_VAULT_SET_SQL`. -/
def vaultStatement : OnConflict where
  model := piiVault
  indexElements := ["client_id"]
  set := [("client_name", .excluded), ("contact_email", .coalesce), ("contact_whatsapp", .coalesce),
    ("contact_phone", .coalesce), ("source", .excluded), ("updated_at", .now)]
  once := by decide

/-- `upsert_vault`. -/
def upsertVault (now : ℤ) (minRows : ℕ) (table : Table) (rows : List RowDict) : Except DbError Table :=
  vaultStatement.run now minRows table rows

/-! ## The claim on both -/

/-- Rows with the same columns, the key among them, and with distinct keys. -/
structure OneBatch (stmt : OnConflict) (rows : List RowDict) : Prop where
  columns : ∀ row ∈ rows, ∀ row' ∈ rows, ∀ name, name ∈ row.keys ↔ name ∈ row'.keys
  keyed : ∀ row ∈ rows, ∀ name ∈ stmt.indexElements, name ∈ row.keys
  distinct : (rows.map fun row => stmt.indexElements.map fun name => (row.get? name).join).Nodup

/-- The columns a statement may set to the clock. -/
def OnConflict.stamps (stmt : OnConflict) (name : String) : Prop :=
  (∃ column ∈ stmt.model.columns, column.name = name ∧ column.serverDefault = .now) ∨
    ∃ entry ∈ stmt.set, entry.1 = name ∧ entry.2 = .now

/-- Both fail, or both leave the same table up to the columns stamped with the clock. -/
def SameTable (stmt : OnConflict) (a b : Except DbError Table) : Prop :=
  Option.Rel (Dict.Related fun r r' => ∀ name, ¬ stmt.stamps name → r name = r' name) a.toOption b.toOption

/-- A stored contact is not replaced by a null. -/
def KeepsContacts (table : Table) (result : Except DbError Table) : Prop :=
  ∀ table', result = .ok table' → ∀ key stored, table.get? key = some stored →
    ∃ stored', table'.get? key = some stored' ∧
      ∀ name ∈ contactColumns, stored name ≠ none → stored' name ≠ none

/-! ## Through the temporary table -/

variable {stmt : OnConflict} {table : Table} {rows : List RowDict} {now now' : ℤ} {name : String}

lemma get?_selected {columns : List String} (nodup : columns.Nodup) (row : StoredRow) (name : String) :
    (OnConflict.selected columns row).get? name = if name ∈ columns then some (row name) else none := by
  have keys : ((columns.map fun name => (name, row name)).map Prod.fst).Nodup := by
    rw [List.map_map]
    simpa [Function.comp_def] using nodup
  split
  · rename_i listed
    rw [OnConflict.selected, Dict.get?_ofList keys]
    exact List.mem_map.mpr ⟨name, listed, rfl⟩
  · rename_i absent
    rw [OnConflict.selected, Dict.get?_eq_none_iff, Dict.keys_ofList keys, List.map_map]
    simpa [Function.comp_def] using absent

/-- The columns of a row, read back from the temporary table, propose the row again. -/
lemma proposed_selected {columns : List String} (nodup : columns.Nodup) {row : RowDict} {values : StoredRow}
    (same : ∀ name, name ∈ columns ↔ name ∈ row.keys)
    (read : ∀ name ∈ columns, values name = (row.get? name).join) (model : Model) :
    model.proposed now (OnConflict.selected columns values) = model.proposed now row := by
  funext name
  rw [Model.proposed, Model.proposed, get?_selected nodup]
  split_ifs with listed
  · obtain ⟨value, found⟩ := (Dict.mem_keys_iff _).mp ((same name).mp listed)
    rw [read name listed, found]
    rfl
  · rw [(Dict.get?_eq_none_iff _).mpr (mt (same name).mpr listed)]

/-- `copy_upsert` is one statement for all rows. -/
lemma copyUpsert_eq (batch : OneBatch stmt rows) : stmt.copyUpsert now table rows =
    stmt.execute now stmt.set table (rows.map (stmt.model.proposed now)) := by
  cases rows with
  | nil => rfl
  | cons first rest =>
    have nodup : first.keys.Nodup := Dict.keys_nodup first
    have same : ∀ row ∈ first :: rest, ∀ name, name ∈ first.keys ↔ name ∈ row.keys :=
      fun row mem => batch.columns first (List.mem_cons_self ..) row mem
    have temp : ((first :: rest).map fun row => stmt.model.proposed now
        (OnConflict.selected first.keys fun name => (row.get? name).join)) =
        (first :: rest).map (stmt.model.proposed now) := by
      refine List.map_congr_left fun row mem => ?_
      exact proposed_selected nodup (same row mem) (fun _ _ => rfl) _
    have back : ((first :: rest).map (stmt.model.proposed now)).map (fun row =>
        stmt.model.proposed now (OnConflict.selected first.keys row)) =
        (first :: rest).map (stmt.model.proposed now) := by
      rw [List.map_map]
      refine List.map_congr_left fun row mem => ?_
      refine proposed_selected nodup (same row mem) (fun name listed => ?_) _
      obtain ⟨value, found⟩ := (Dict.mem_keys_iff _).mp ((same row mem name).mp listed)
      rw [Model.proposed, found]
      rfl
    rw [OnConflict.copyUpsert]
    simp only [List.head?_cons, Option.map_some, Option.getD_some, temp, back]
    split
    · rename_i violates
      rw [OnConflict.execute, if_pos violates]
    · rfl

/-! ## In batches -/

lemma execute_append {set : List (String × SetExpr)} {part rest : List StoredRow}
    (nodup : ((part ++ rest).map stmt.keyOf).Nodup) :
    ((stmt.execute now set table part).bind fun table => stmt.execute now set table rest).toOption =
      (stmt.execute now set table (part ++ rest)).toOption := by
  have parts := nodup
  rw [List.map_append, List.nodup_append] at parts
  rw [OnConflict.execute, OnConflict.execute, List.any_append, if_neg (not_not.mpr parts.1),
    if_neg (not_not.mpr nodup)]
  cases violates : part.any stmt.model.violates with
  | true => rfl
  | false =>
    show (stmt.execute now set _ rest).toOption = _
    rw [OnConflict.execute, if_neg (not_not.mpr parts.2.1), Bool.false_or]
    cases violates' : rest.any stmt.model.violates with
    | true => rfl
    | false =>
      simp only [Bool.false_eq_true, if_false, List.map_append, Dict.upsert, List.foldl_append]

lemma toOption_bind {ε α β : Type*} {x y : Except ε α} {f : α → Except ε β}
    (same : x.toOption = y.toOption) : (x.bind f).toOption = (y.bind f).toOption := by
  cases x with
  | error e =>
    cases y with
    | error e' => rfl
    | ok a => cases same
  | ok a =>
    cases y with
    | error e => cases same
    | ok b =>
      cases same
      rfl

/-- Batch after batch is one statement for all rows. -/
lemma foldlM_execute {set : List (String × SetExpr)} (parts : List (List RowDict))
    (nodup : ((parts.flatten.map (stmt.model.proposed now)).map stmt.keyOf).Nodup) :
    (parts.foldlM (fun table batch => stmt.execute now set table (batch.map (stmt.model.proposed now)))
      table).toOption =
        (stmt.execute now set table (parts.flatten.map (stmt.model.proposed now))).toOption := by
  induction parts generalizing table with
  | nil => rfl
  | cons part parts ih =>
    rw [List.flatten_cons, List.map_append] at nodup ⊢
    have later : ((parts.flatten.map (stmt.model.proposed now)).map stmt.keyOf).Nodup := by
      rw [List.map_append, List.nodup_append] at nodup
      exact nodup.2.1
    rw [List.foldlM_cons, ← execute_append nodup]
    show (Except.bind _ _).toOption = _
    cases stmt.execute now set table (part.map (stmt.model.proposed now)) with
    | error e => rfl
    | ok table' => exact ih later

lemma keyOf_proposed (batch : OneBatch stmt rows) {row : RowDict} (mem : row ∈ rows) :
    stmt.keyOf (stmt.model.proposed now row) =
      stmt.indexElements.map fun name => (row.get? name).join := by
  refine List.map_congr_left fun name indexed => ?_
  obtain ⟨value, found⟩ := (Dict.mem_keys_iff _).mp (batch.keyed row mem name indexed)
  rw [Model.proposed, found]
  rfl

lemma keys_proposed (batch : OneBatch stmt rows) :
    (rows.map (stmt.model.proposed now)).map stmt.keyOf =
      rows.map fun row => stmt.indexElements.map fun name => (row.get? name).join := by
  rw [List.map_map]
  exact List.map_congr_left fun row mem => keyOf_proposed batch mem

lemma insertBatches_eq (batch : OneBatch stmt rows) {size : ℕ} (pos : 0 < size) :
    (stmt.insertBatches now size table rows).toOption =
      (stmt.execute now stmt.set table (rows.map (stmt.model.proposed now))).toOption := by
  rw [OnConflict.insertBatches, foldlM_execute, flatten_slices pos, Dict.items_ofList stmt.once]
  rw [flatten_slices pos, keys_proposed batch]
  exact batch.distinct

lemma batchSize_pos (rows : List RowDict) : 0 < OnConflict.batchSize rows := by
  rw [OnConflict.batchSize]
  omega

/-- Whichever way is taken, it is one statement for all rows. -/
lemma run_eq (batch : OneBatch stmt rows) (nonempty : rows ≠ []) (minRows : ℕ) :
    (stmt.run now minRows table rows).toOption =
      (stmt.execute now stmt.set table (rows.map (stmt.model.proposed now))).toOption := by
  rw [OnConflict.run, if_neg nonempty]
  split
  · rw [copyUpsert_eq batch]
  · exact insertBatches_eq batch (batchSize_pos rows)

/-! ## At another time -/

lemma default_unstamped (unstamped : ¬ stmt.stamps name) :
    stmt.model.default now name = stmt.model.default now' name := by
  rw [Model.default, Model.default]
  cases found : stmt.model.columns.find? (·.name = name) with
  | none => rfl
  | some column =>
    rw [Option.bind_some, Option.bind_some]
    cases default : column.serverDefault with
    | none => rfl
    | value value => rfl
    | now =>
      have named := List.find?_some found
      exact absurd (.inl ⟨column, List.mem_of_find?_eq_some found, of_decide_eq_true named, default⟩)
        unstamped

lemma proposed_unstamped (row : RowDict) (unstamped : ¬ stmt.stamps name) :
    stmt.model.proposed now row name = stmt.model.proposed now' row name := by
  rw [Model.proposed, Model.proposed]
  cases row.get? name with
  | none => exact default_unstamped unstamped
  | some value => rfl

/-- Whether a column is null does not depend on the time. -/
lemma isNone_proposed (model : Model) (row : RowDict) (name : String) :
    (model.proposed now row name).isNone = (model.proposed now' row name).isNone := by
  rw [Model.proposed, Model.proposed]
  cases row.get? name with
  | some value => rfl
  | none =>
    show (model.default now name).isNone = (model.default now' name).isNone
    rw [Model.default, Model.default]
    cases model.columns.find? (·.name = name) with
    | none => rfl
    | some column =>
      rw [Option.bind_some, Option.bind_some]
      cases column.serverDefault with
      | none => rfl
      | value value => rfl
      | now => rfl

lemma violates_proposed (model : Model) (row : RowDict) :
    model.violates (model.proposed now row) = model.violates (model.proposed now' row) := by
  rw [Model.violates, Model.violates]
  refine congrArg model.columns.any ?_
  funext column
  rw [isNone_proposed]

lemma stamps_of_lookup (found : stmt.set.lookup name = some .now) : stmt.stamps name := by
  obtain ⟨before, after, split, _⟩ := List.lookup_eq_some_iff.mp found
  refine .inr ⟨(name, .now), ?_, rfl, rfl⟩
  rw [split]
  exact List.mem_append_right _ (List.mem_cons_self ..)

lemma update_unstamped {r r' e e' : StoredRow} (unstamped : ¬ stmt.stamps name)
    (stored : r name = r' name) (excluded : e name = e' name) :
    OnConflict.update now stmt.set r e name = OnConflict.update now' stmt.set r' e' name := by
  rw [OnConflict.update, OnConflict.update]
  cases found : stmt.set.lookup name with
  | none => exact stored
  | some expr =>
    cases expr with
    | excluded => exact excluded
    | coalesce =>
      show (e name).or (r name) = (e' name).or (r' name)
      rw [stored, excluded]
    | now => exact absurd (stamps_of_lookup found) unstamped

/-- The rows with the values of their conflict key. -/
def OnConflict.keyed (stmt : OnConflict) (rows : List RowDict) : List (List (Option Value) × RowDict) :=
  rows.map fun row => (stmt.indexElements.map fun name => (row.get? name).join, row)

/-- How the statement writes a dictionary. -/
def OnConflict.writes (stmt : OnConflict) (now : ℤ) : Dict.Writes StoredRow RowDict where
  insert := stmt.model.proposed now
  merge stored row := OnConflict.update now stmt.set stored (stmt.model.proposed now row)

/-- A row leaves out a column that may not be null and has no default. -/
def OnConflict.refuses (stmt : OnConflict) (rows : List RowDict) : Bool :=
  rows.any fun row => stmt.model.violates (stmt.model.proposed 0 row)

lemma apply_none (row : RowDict) : (stmt.writes now).apply none row = stmt.model.proposed now row := rfl

lemma apply_some (stored : StoredRow) (row : RowDict) : (stmt.writes now).apply (some stored) row =
    OnConflict.update now stmt.set stored (stmt.model.proposed now row) := rfl

lemma keyed_nodup (batch : OneBatch stmt rows) : ((stmt.keyed rows).map Prod.fst).Nodup := by
  rw [OnConflict.keyed, List.map_map]
  exact batch.distinct

/-- The statement refuses the rows, whatever the table, or writes the dictionaries one after the other. -/
lemma execute_eq (batch : OneBatch stmt rows) :
    stmt.execute now stmt.set table (rows.map (stmt.model.proposed now)) =
      if stmt.refuses rows then .error .notNullViolation
      else .ok (table.upsert (stmt.writes now) (stmt.keyed rows)) := by
  have violates : (rows.map (stmt.model.proposed now)).any stmt.model.violates = stmt.refuses rows := by
    rw [List.any_map, OnConflict.refuses]
    refine congrArg rows.any ?_
    funext row
    exact violates_proposed stmt.model row
  have keys : ((rows.map (stmt.model.proposed now)).map stmt.keyOf).Nodup := by
    rw [keys_proposed batch]
    exact batch.distinct
  have entries : ((rows.map (stmt.model.proposed now)).map fun row => (stmt.keyOf row, row)) =
      rows.map fun row => (stmt.indexElements.map fun name => (row.get? name).join,
        stmt.model.proposed now row) := by
    rw [List.map_map]
    refine List.map_congr_left fun row mem => ?_
    rw [Function.comp_apply, keyOf_proposed batch mem]
  rw [OnConflict.execute, violates, if_neg (not_not.mpr keys), entries]
  simp only [Dict.upsert, OnConflict.keyed, List.foldl_map]
  rfl

/-- The statement at another time leaves another clock in the stamped columns, and no other difference. -/
lemma execute_clock (batch : OneBatch stmt rows) :
    SameTable stmt (stmt.execute now stmt.set table (rows.map (stmt.model.proposed now)))
      (stmt.execute now' stmt.set table (rows.map (stmt.model.proposed now'))) := by
  rw [SameTable, execute_eq batch, execute_eq batch]
  split
  · exact .none
  · refine .some (Dict.upsert_related (Dict.Related.refl (fun _ _ _ => rfl) table) ?_ ?_)
    · intro row _ name unstamped
      exact proposed_unstamped row.2 unstamped
    · intro row _ r r' same name unstamped
      exact update_unstamped unstamped (same name unstamped) (proposed_unstamped row.2 unstamped)

lemma sameTable_of_eq {a b c d : Except DbError Table} (left : a.toOption = b.toOption)
    (right : c.toOption = d.toOption) (same : SameTable stmt b d) : SameTable stmt a c := by
  rw [SameTable, left, right]
  exact same

/-- One statement, by either way and at whatever time. -/
lemma ways_agree (batch : OneBatch stmt rows) (nonempty : rows ≠ []) (table : Table) (now now' : ℤ) :
    (∀ size, 0 < size →
      SameTable stmt (stmt.copyUpsert now table rows) (stmt.insertBatches now' size table rows)) ∧
    ∀ minRows minRows', SameTable stmt (stmt.run now minRows table rows) (stmt.run now' minRows' table rows) :=
  ⟨fun _ pos => sameTable_of_eq (congrArg _ (copyUpsert_eq batch)) (insertBatches_eq batch pos)
      (execute_clock batch),
    fun minRows minRows' => sameTable_of_eq (run_eq batch nonempty minRows) (run_eq batch nonempty minRows')
      (execute_clock batch)⟩

/-! ## The same rows again -/

lemma run_ok (batch : OneBatch stmt rows) (nonempty : rows ≠ []) (accepted : stmt.refuses rows = false)
    (minRows : ℕ) :
    stmt.run now minRows table rows = .ok (table.upsert (stmt.writes now) (stmt.keyed rows)) := by
  have made : (stmt.run now minRows table rows).toOption = _ := run_eq batch nonempty minRows
  rw [execute_eq batch, accepted] at made
  cases ran : stmt.run now minRows table rows with
  | error e =>
    rw [ran] at made
    cases made
  | ok table' =>
    rw [ran] at made
    exact congrArg Except.ok (Option.some.inj made)

lemma run_error (batch : OneBatch stmt rows) (nonempty : rows ≠ []) (refused : stmt.refuses rows = true)
    (minRows : ℕ) : ∃ e, stmt.run now minRows table rows = .error e := by
  have made : (stmt.run now minRows table rows).toOption = _ := run_eq batch nonempty minRows
  rw [execute_eq batch, refused] at made
  cases ran : stmt.run now minRows table rows with
  | error e => exact ⟨e, rfl⟩
  | ok table' =>
    rw [ran] at made
    cases made

/-- What was set of a row is set to the same again. -/
lemma merge_again (row : RowDict) (old : Option StoredRow) (unstamped : ¬ stmt.stamps name) :
    (stmt.writes now').merge ((stmt.writes now).apply old row) row name =
      (stmt.writes now).apply old row name := by
  have proposed : stmt.model.proposed now' row name = stmt.model.proposed now row name :=
    proposed_unstamped row unstamped
  show OnConflict.update now' stmt.set _ _ name = _
  rw [OnConflict.update]
  cases found : stmt.set.lookup name with
  | none => rfl
  | some expr =>
    cases expr with
    | excluded =>
      show stmt.model.proposed now' row name = _
      cases old with
      | none => exact proposed
      | some stored =>
        rw [apply_some, OnConflict.update, found]
        exact proposed
    | coalesce =>
      show (stmt.model.proposed now' row name).or _ = _
      rw [proposed]
      cases old with
      | none => exact Option.or_self
      | some stored =>
        rw [apply_some, OnConflict.update, found]
        show (stmt.model.proposed now row name).or ((stmt.model.proposed now row name).or (stored name)) = _
        rw [← Option.or_assoc, Option.or_self]
        rfl
    | now => exact absurd (stamps_of_lookup found) unstamped

/-- To write a batch again changes no more than the stamped columns. -/
lemma batch_again (batch : OneBatch stmt rows) (table : Table) (now now' : ℤ) :
    ((table.upsert (stmt.writes now) (stmt.keyed rows)).upsert (stmt.writes now') (stmt.keyed rows)).Related
      (fun r r' => ∀ name, ¬ stmt.stamps name → r name = r' name)
      (table.upsert (stmt.writes now) (stmt.keyed rows)) :=
  Dict.upsert_again (fun _ _ _ => rfl) (keyed_nodup batch) fun row _ old _ unstamped =>
    merge_again row.2 old unstamped

/-! ## The contacts of the vault -/

/-- What a contact column becomes is the new contact, or else the stored one. -/
lemma contact_update {stored excluded : StoredRow} (contact : name ∈ contactColumns)
    (known : stored name ≠ none) : OnConflict.update now vaultStatement.set stored excluded name ≠ none := by
  have coalesced : vaultStatement.set.lookup name = some .coalesce := by
    simp only [contactColumns, List.mem_cons, List.not_mem_nil, or_false] at contact
    rcases contact with rfl | rfl | rfl
    · rfl
    · rfl
    · rfl
  rw [OnConflict.update, coalesced]
  show (excluded name).or (stored name) ≠ none
  cases excluded name with
  | none => exact known
  | some value => nofun

lemma keepsContacts_run (batch : OneBatch vaultStatement rows) (nonempty : rows ≠ []) (minRows : ℕ) :
    KeepsContacts table (vaultStatement.run now minRows table rows) := by
  intro table' ok key stored found
  have made : (vaultStatement.run now minRows table rows).toOption = _ := run_eq batch nonempty minRows
  rw [ok, OnConflict.execute] at made
  split at made
  · cases made
  · rw [if_neg (not_not.mpr (by rw [keys_proposed batch]; exact batch.distinct))] at made
    have same : table' = _ := Option.some.inj made
    subst same
    have nodup : (((rows.map (vaultStatement.model.proposed now)).map fun row =>
        (vaultStatement.keyOf row, row)).map Prod.fst).Nodup := by
      rw [List.map_map]
      show ((rows.map (vaultStatement.model.proposed now)).map vaultStatement.keyOf).Nodup
      rw [keys_proposed batch]
      exact batch.distinct
    by_cases listed : key ∈ ((rows.map (vaultStatement.model.proposed now)).map fun row =>
        (vaultStatement.keyOf row, row)).map Prod.fst
    · obtain ⟨⟨key', row⟩, mem, rfl⟩ := List.mem_map.mp listed
      refine ⟨_, Dict.get?_upsert_of_mem nodup mem, fun name contact known => ?_⟩
      rw [found]
      exact contact_update contact known
    · refine ⟨stored, ?_, fun _ _ known => known⟩
      rw [Dict.get?_upsert_of_not_mem listed, found]

/-- For rows with the same columns and distinct conflict keys, `upsert` and `upsert_vault` leave the same table
    by `COPY` and by inserts of any batch size, hence at any threshold, and no contact of the vault is lost. -/
theorem bulk_equals_insert {rows : List RowDict} (nonempty : rows ≠ []) (table : Table) (now now' : ℤ) :
    (∀ target : Target, OneBatch target.statement rows →
      (∀ size, 0 < size → SameTable target.statement (target.statement.copyUpsert now table rows)
        (target.statement.insertBatches now' size table rows)) ∧
      ∀ minRows minRows', SameTable target.statement (upsert target now minRows table rows)
        (upsert target now' minRows' table rows)) ∧
    (OneBatch vaultStatement rows →
      (∀ size, 0 < size → SameTable vaultStatement (vaultStatement.copyUpsert now table rows)
        (vaultStatement.insertBatches now' size table rows)) ∧
      (∀ minRows minRows', SameTable vaultStatement (upsertVault now minRows table rows)
        (upsertVault now' minRows' table rows)) ∧
      ∀ minRows, KeepsContacts table (upsertVault now minRows table rows)) := by
  refine ⟨fun target batch => ways_agree batch nonempty table now now', fun batch => ?_⟩
  obtain ⟨sizes, thresholds⟩ := ways_agree batch nonempty table now now'
  exact ⟨sizes, thresholds, keepsContacts_run batch nonempty⟩

/-- A fund without a count, as `persist_result` passes it. -/
def sampleFund : RowDict :=
  .ofList [("unit_fund_id", some (.int 7)), ("unit_fund_name", some (.text "")),
    ("inactive_client_count", none)]

lemma oneBatch_sampleFund : OneBatch fundsTarget.statement [sampleFund] where
  columns := by
    intro row mem row' mem' name
    rw [List.mem_singleton.mp mem, List.mem_singleton.mp mem']
  keyed := by
    intro row mem name indexed
    rw [List.mem_singleton.mp mem, List.mem_singleton.mp indexed]
    decide
  distinct := List.nodup_singleton _

theorem bulk_equals_insert_sample : [sampleFund] ≠ [] ∧ ∀ size, 0 < size →
    SameTable fundsTarget.statement (fundsTarget.statement.copyUpsert 1 .empty [sampleFund])
      (fundsTarget.statement.insertBatches 2 size .empty [sampleFund]) :=
  ⟨List.cons_ne_nil _ _,
    ((bulk_equals_insert (List.cons_ne_nil _ _) .empty 1 2).1 fundsTarget oneBatch_sampleFund).1⟩

end ClientEngagement.Transform
