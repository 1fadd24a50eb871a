import ClientEngagement.Agents.Permissions
import ClientEngagement.Rules.LiveConfig

/-!
# The action catalogue

Model of `agents/action_catalog.py`: `validateActions` (`validate_actions`), `saveActionCatalogVersion`
(`save_action_catalog_version`), the loaders and `setActionContentMix` (`set_action_content_mix`), which
changes the mix of one action by saving the catalogue of a date once more under the next version.

The save ends every open version, a scheduled one that has not started included. `heir` is the version a
date is left with: a scheduled version whose end was set before leads it, and every other date gets a copy
of the catalogue the change started from. `mix_changes_only_iff` says when that is the frame law.
-/

namespace ClientEngagement.Agents
open Rules

/-- `CONTENT_MIXES`. -/
def contentMixes : List String := ["learning_only", "mostly_learning", "balanced", "mostly_ask"]

/-- `RESPONSE_KINDS`. -/
def responseKinds : List String :=
  ["automated_email", "advisor_task", "phone_call", "campaign_enrolment", "product_teaching",
    "monitor_only", "escalate", "change_client_state", "ask_a_person_first"]

/-- One action of a catalogue version. -/
structure ActionSpec where
  actionCode : String
  title : String
  who : String
  evidenceRequired : String
  responseKind : String
  contentMix : String
  defaultPermission : String
  messageAngle : Option String := none
  channel : Option String := none
  moneyCeilingKes : Option ℚ := none
  paused : Bool := false
deriving DecidableEq

/-! ## Validation -/

/-- `_REQUIRED_FIELDS`. -/
def requiredActionFields : List (String × (ActionSpec → String)) :=
  [("action_code", ActionSpec.actionCode), ("title", ActionSpec.title), ("who", ActionSpec.who),
    ("evidence_required", ActionSpec.evidenceRequired)]

/-- `bool(text)`. -/
def isGiven (text : Option String) : Bool := text.any (· ≠ "")

/-- What is wrong with one action. -/
def actionError (spec : ActionSpec) : Option String :=
  let named := "action '" ++ spec.actionCode ++ "' "
  match requiredActionFields.find? fun (_, read) => isBlank (read spec) with
  | some (field, _) => some (named ++ "has an empty '" ++ field ++ "'")
  | none =>
    if spec.responseKind ∉ responseKinds then
      some (named ++ "has an unknown response kind '" ++ spec.responseKind ++ "'")
    else if spec.contentMix ∉ contentMixes then
      some (named ++ "has an unknown content mix '" ++ spec.contentMix ++ "'")
    else if spec.defaultPermission ∉ permissionLevels.map Prod.fst then
      some (named ++ "has an unknown permission level '" ++ spec.defaultPermission ++ "'")
    else if spec.moneyCeilingKes.any (· ≤ 0) then
      some (named ++ "has a money ceiling that is not above zero")
    else if (isGiven spec.messageAngle || isGiven spec.channel) &&
        !(isGiven spec.messageAngle && isGiven spec.channel) then
      some (named ++ "must give both a message angle and a channel, or neither")
    else none

def validateActions (actions : List ActionSpec) : Except String Unit :=
  if actions = [] then .error "a catalogue may not be empty"
  else
    let codes := actions.map ActionSpec.actionCode
    let duplicates := sortBy id (codes.filter fun code => 1 < codes.count code).dedup
    if duplicates ≠ [] then .error ("action codes must be unique: " ++ reprNames duplicates)
    else
      match actions.findSome? actionError with
      | some reason => .error reason
      | none => .ok ()

/-! ## The table -/

/-- `agent_action_catalog`: no key column, one row per version and action code. -/
def actionSpec : ComponentSpec ActionSpec (ℤ × String) where
  keyed := false
  uniqueKey := fun version _ spec => (version, spec.actionCode)

abbrev ActionCatalog := Store actionSpec

variable {ν ι : Type*}

/-- What `close_previous` makes of a row. -/
def closeRow (version : ℤ) (validFrom : Date) (r : Row ν) : Row ν :=
  if r.version < version ∧ r.isLive then { r with validTo := some validFrom } else r

lemma map_rowKey_closeRow (spec : ComponentSpec ν ι) (version : ℤ) (validFrom : Date)
    (rows : List (Row ν)) :
    (rows.map (closeRow version validFrom)).map spec.rowKey = rows.map spec.rowKey := by
  rw [List.map_map]
  refine List.map_congr_left fun r _ => ?_
  rw [Function.comp_apply, closeRow]
  split_ifs
  · rfl
  · rfl

def closePrevious {spec : ComponentSpec ν ι} (s : Store spec) (version : ℤ) (validFrom : Date) :
    Store spec where
  rows := s.rows.map (closeRow version validFrom)
  active := s.active
  unique := by
    rw [map_rowKey_closeRow]
    exact s.unique

/-- Validates and inserts a new version (`save_action_catalog_version`). Closing a row leaves its version
    as it is, so whether the version exists may be read after it. -/
def saveActionCatalogVersion (s : ActionCatalog) (version : ℤ) (actions : List ActionSpec)
    (validFrom : Date) (validTo : Option Date) (close : Bool) (publishedAt : Instant) :
    Except VersioningError ActionCatalog :=
  (if close then closePrevious s version validFrom else s).saveVersion (validateActions actions) version
    (actions.map fun spec => (defaultComponentKey, spec)) [defaultComponentKey] validFrom validTo
    publishedAt

/-- The actions of one version by code. -/
def actionsOf (rows : List (Row ActionSpec)) (version : ℤ) : Dict String (Row ActionSpec) :=
  .ofList ((rows.filter (·.version = version)).map fun row => (row.content.actionCode, row))

/-- The version in force (`active_action_catalog_version`). -/
def activeActionCatalogVersion (s : ActionCatalog) (date : Date) : Option ℤ := activeVersion s.rows date

/-- Every action of the version in force (`load_active_actions`). -/
def loadActiveActions (s : ActionCatalog) (date : Date) : Dict String (Row ActionSpec) :=
  match activeActionCatalogVersion s date with
  | none => .empty
  | some version => actionsOf s.rows version

/-- One action as it stood in the version in force (`load_action`). -/
def loadAction (s : ActionCatalog) (actionCode : String) (date : Date) : Option (Row ActionSpec) :=
  (loadActiveActions s date).get? actionCode

/-- The specification a change of the mix saves for an action in force. -/
def replaceMix (actionCode contentMix : String) (item : String × Row ActionSpec) : ActionSpec :=
  if item.1 = actionCode then { item.2.content with contentMix := contentMix } else item.2.content

/-- Changes the content mix of one action (`set_action_content_mix`), with the version it returns. -/
def setActionContentMix (s : ActionCatalog) (actionCode contentMix : String) (validFrom : Option Date)
    (today : Date) (publishedAt : Instant) : Except VersioningError (ℤ × ActionCatalog) :=
  if contentMix ∉ contentMixes then
    .error (.invalid ("'" ++ contentMix ++ "' is not a known content mix"))
  else
    let start := validFrom.getD today
    let current := loadActiveActions s start
    match current.get? actionCode with
    | none => .error (.invalid ("there is no action '" ++ actionCode ++ "' in force"))
    | some before =>
      if before.content.contentMix = contentMix then .ok (before.version, s)
      else
        let specs := current.items.map (replaceMix actionCode contentMix)
        let version := s.nextVersion defaultComponentKey
        (saveActionCatalogVersion s version specs start none true publishedAt).map fun s' => (version, s')

/-! ## The frame law -/

/-- The specification without the mix, for the action whose mix changes. -/
def ActionSpec.withoutMix (actionCode : String) (spec : ActionSpec) : ActionSpec :=
  if spec.actionCode = actionCode then { spec with contentMix := "" } else spec

/-- A row but for its end date, which the next save sets. -/
def openEnded (r : Row ν) : Row ν := { r with validTo := none }

/-- The mix of one action is all that changed from `start` on, and nothing did before. -/
structure ChangesOnlyMix (s s' : ActionCatalog) (actionCode : String) (start : Date) : Prop where
  before : ∀ date < start, ∀ code,
    (loadAction s' code date).map openEnded = (loadAction s code date).map openEnded
  since : ∀ date, start ≤ date → ∀ code,
    (loadAction s' code date).map (·.content.withoutMix actionCode) =
      (loadAction s code date).map (·.content.withoutMix actionCode)

/-- The rows that start after `start` and that a save leaves open to. -/
def stillScheduled (start : Date) (rows : List (Row ν)) : List (Row ν) :=
  rows.filter fun r => !r.isLive && r.validFrom.any (start < ·)

/-- The version a date from `start` on takes its actions from: a scheduled one with an end date, or else the
    one in force on `start`. -/
def heir (start : Date) (rows : List (Row ν)) (date : Date) : Option ℤ :=
  (activeVersion (stillScheduled start rows) date).or (activeVersion rows start)

/-- On each date from `start` on, the actions in force are those of the heir, one mix apart. -/
def KeepsSchedule (s : ActionCatalog) (actionCode : String) (start : Date) : Prop :=
  ∀ date, start ≤ date → ∀ code,
    ((heir start s.rows date).bind fun version => (actionsOf s.rows version).get? code).map
        (·.content.withoutMix actionCode) =
      (loadAction s code date).map (·.content.withoutMix actionCode)

/-- The action in force on `start` already has the mix. -/
def HasMix (s : ActionCatalog) (actionCode contentMix : String) (start : Date) : Prop :=
  ∃ row, loadAction s actionCode start = some row ∧ row.content.contentMix = contentMix

/-! ## What a save makes of a row -/

section Rows

variable {rows new : List (Row ν)} {r : Row ν} {version : ℤ} {start date : Date}

@[simp] lemma version_closeRow : (closeRow version start r).version = r.version := by
  rw [closeRow]
  split
  · rfl
  · rfl

@[simp] lemma content_closeRow : (closeRow version start r).content = r.content := by
  rw [closeRow]
  split
  · rfl
  · rfl

@[simp] lemma rank_closeRow : (closeRow version start r).rank = r.rank := by
  rw [closeRow]
  split
  · rfl
  · rfl

@[simp] lemma openEnded_closeRow : openEnded (closeRow version start r) = openEnded r := by
  rw [closeRow]
  split
  · rfl
  · rfl

lemma validTo_of_isLive (live : r.isLive = true) : r.validTo = none := by
  rw [Row.isLive, decide_eq_true_eq] at live
  exact live.2

/-- Before `start` a closed row is in force when it was. -/
lemma inForce_closeRow_before (early : date < start) :
    (closeRow version start r).inForce date = r.inForce date := by
  rw [closeRow]
  split
  · rename_i closed
    simp [Row.inForce, validTo_of_isLive closed.2, early]
  · rfl

/-- From `start` on only the rows that were not open stay in force. -/
lemma inForce_closeRow_since (late : start ≤ date) (below : r.version < version) :
    (closeRow version start r).inForce date = (!r.isLive && r.inForce date) := by
  cases live : r.isLive with
  | true =>
    rw [closeRow, if_pos ⟨below, live⟩]
    simp [Row.inForce, late]
  | false =>
    rw [closeRow, if_neg fun closed => Bool.false_ne_true (live.symm.trans closed.2)]
    rfl

/-- Rewriting rows leaves the selection alone where their order and their being in force are kept. -/
lemma activeVersion_map {f : Row ν → Row ν} (rank : ∀ r, (f r).rank = r.rank)
    (inForce : ∀ r ∈ rows, (f r).inForce date = r.inForce date) :
    activeVersion (rows.map f) date = activeVersion rows date := by
  cases active : activeVersion rows date with
  | none =>
    rw [activeVersion_eq_none] at active ⊢
    intro r' mem
    obtain ⟨r, listed, same⟩ := List.mem_map.mp mem
    rw [← same, inForce r listed]
    exact active r listed
  | some v =>
    obtain ⟨m, leads, named⟩ := leads_of_activeVersion active
    have lead : Leads (rows.map f) date (f m) := by
      refine ⟨List.mem_map_of_mem leads.mem, (inForce m leads.mem).trans leads.inForce, ?_⟩
      intro r' mem holds
      obtain ⟨r, listed, same⟩ := List.mem_map.mp mem
      subst same
      rw [inForce r listed] at holds
      rw [rank, rank]
      exact leads.le r listed holds
    rw [lead.activeVersion_eq, version_of_rank_eq (rank m), named]

lemma mem_stillScheduled : r ∈ stillScheduled start rows ↔
    r ∈ rows ∧ r.isLive = false ∧ ∃ d, r.validFrom = some d ∧ start < d := by
  simp [stillScheduled, Option.any_eq_true]

/-- A row in force that is not scheduled started by `start`. -/
lemma validFrom_le (mem : r ∈ rows) (closed : r.isLive = false) (holds : r.inForce date = true)
    (not : r ∉ stillScheduled start rows) : r.validFrom.getD 0 ≤ start := by
  cases from_ : r.validFrom with
  | none =>
    rw [Row.inForce, from_] at holds
    cases holds
  | some d =>
    rw [mem_stillScheduled] at not
    by_contra late
    exact not ⟨mem, closed, d, from_, not_le.mp late⟩

/-- Before `start` the new version is not in force. -/
lemma activeVersion_saved_before (early : date < start)
    (from_ : ∀ n ∈ new, n.validFrom = some start) :
    activeVersion (rows.map (closeRow version start) ++ new) date = activeVersion rows date := by
  rw [activeVersion_append_of_dominated]
  · exact activeVersion_map (fun _ => rank_closeRow) fun _ _ => inForce_closeRow_before early
  · intro n mem holds
    rw [Row.inForce, from_ n mem] at holds
    simp [not_le.mpr early] at holds

/-- From `start` on a scheduled version with an end date leads, and else the new one. -/
lemma activeVersion_saved_since (late : start ≤ date) (below : ∀ r ∈ rows, r.version < version)
    (named : ∀ n ∈ new, n.version = version) (from_ : ∀ n ∈ new, n.validFrom = some start)
    (open_ : ∀ n ∈ new, n.validTo = none) (some_ : new ≠ []) :
    activeVersion (rows.map (closeRow version start) ++ new) date =
      some ((activeVersion (stillScheduled start rows) date).getD version) := by
  have rankNew : ∀ n ∈ new, n.rank = toLex (start, version) := by
    intro n mem
    rw [Row.rank, from_ n mem, named n mem]
    rfl
  have holdsOld : ∀ r ∈ rows, (closeRow version start r).inForce date = true →
      r.isLive = false ∧ r.inForce date = true := by
    intro r mem holds
    rw [inForce_closeRow_since late (below r mem), Bool.and_eq_true, Bool.not_eq_true'] at holds
    exact holds
  cases scheduled : activeVersion (stillScheduled start rows) date with
  | some w =>
    obtain ⟨m, leads, same⟩ := leads_of_activeVersion scheduled
    obtain ⟨mem, closed, d, fromM, after⟩ := mem_stillScheduled.mp leads.mem
    have above : ∀ q : Row ν, q.validFrom.getD 0 ≤ start → q.rank ≤ m.rank := by
      intro q started
      refine (Prod.Lex.toLex_lt_toLex.mpr (.inl ?_)).le
      rw [fromM]
      exact started.trans_lt after
    have lead : Leads (rows.map (closeRow version start) ++ new) date (closeRow version start m) := by
      refine ⟨List.mem_append_left _ (List.mem_map_of_mem mem), ?_, ?_⟩
      · rw [inForce_closeRow_since late (below m mem), closed, leads.inForce]
        rfl
      · intro q listed holds
        rw [rank_closeRow]
        cases List.mem_append.mp listed with
        | inl old =>
          obtain ⟨r, given, made⟩ := List.mem_map.mp old
          subst made
          obtain ⟨ended, holds'⟩ := holdsOld r given holds
          rw [rank_closeRow]
          by_cases in_ : r ∈ stillScheduled start rows
          · exact leads.le r in_ holds'
          · exact above r (validFrom_le given ended holds' in_)
        | inr now =>
          apply above
          rw [from_ q now]
          exact le_rfl
    rw [lead.activeVersion_eq, version_closeRow, same]
    rfl
  | none =>
    rw [activeVersion_eq_none] at scheduled
    obtain ⟨n, mem⟩ := List.exists_mem_of_ne_nil new some_
    refine activeVersion_append_of_takes named mem ?_ ?_
    · rw [Row.inForce, from_ n mem, open_ n mem]
      simp [late]
    · intro q listed holds
      obtain ⟨r, given, made⟩ := List.mem_map.mp listed
      subst made
      obtain ⟨ended, holds'⟩ := holdsOld r given holds
      have not : r ∉ stillScheduled start rows := by
        intro in_
        rw [scheduled r in_] at holds'
        cases holds'
      rw [rank_closeRow, rankNew n mem]
      exact Prod.Lex.toLex_le_toLex'.mpr ⟨validFrom_le given ended holds' not,
        fun _ => (below r given).le⟩

end Rows

/-! ## The actions of a version -/

variable {s s' : ActionCatalog} {actionCode contentMix code : String} {version v : ℤ}
  {start date today : Date} {publishedAt : Instant}

/-- No two rows of one version share an action code. -/
lemma codes_nodup (s : ActionCatalog) (version : ℤ) :
    (((s.rows.filter (·.version = version)).map fun row => (row.content.actionCode, row)).map
      Prod.fst).Nodup := by
  have unique := s.unique.sublist ((List.filter_sublist (p := (·.version = version))).map _)
  refine List.Nodup.of_map (fun code => (version, code)) ?_
  rw [List.map_map, List.map_map]
  have same : (s.rows.filter (·.version = version)).map actionSpec.rowKey =
      (s.rows.filter (·.version = version)).map
        ((fun code => (version, code)) ∘ Prod.fst ∘ fun row => (row.content.actionCode, row)) := by
    refine List.map_congr_left fun r mem => ?_
    rw [List.mem_filter, decide_eq_true_eq] at mem
    rw [ComponentSpec.rowKey, mem.2]
    rfl
  exact same ▸ unique

lemma items_actionsOf (s : ActionCatalog) (version : ℤ) :
    (actionsOf s.rows version).items =
      (s.rows.filter (·.version = version)).map fun row => (row.content.actionCode, row) :=
  Dict.items_ofList (codes_nodup s version)

/-- The actions in force are listed under their own codes. -/
lemma code_of_loadActiveActions {item : String × Row ActionSpec}
    (mem : item ∈ (loadActiveActions s date).items) : item.2.content.actionCode = item.1 := by
  rw [loadActiveActions] at mem
  cases active : activeActionCatalogVersion s date with
  | none =>
    rw [active] at mem
    cases mem
  | some v =>
    simp only [active, items_actionsOf] at mem
    obtain ⟨row, _, same⟩ := List.mem_map.mp mem
    subst same
    rfl

lemma loadAction_of_active (active : activeVersion s.rows date = some v) (code : String) :
    loadAction s code date = (actionsOf s.rows v).get? code := by
  rw [loadAction, loadActiveActions, activeActionCatalogVersion, active]

/-- The row a change of the mix saves for an action in force. -/
def savedRow (actionCode contentMix : String) (version : ℤ) (start : Date) (publishedAt : Instant)
    (item : String × Row ActionSpec) : Row ActionSpec :=
  Store.publishedRow version start none publishedAt defaultComponentKey
    (replaceMix actionCode contentMix item)

@[simp] lemma withoutMix_replaceMix {item : String × Row ActionSpec}
    (listed : item.2.content.actionCode = item.1) :
    (replaceMix actionCode contentMix item).withoutMix actionCode =
      item.2.content.withoutMix actionCode := by
  rw [replaceMix]
  split
  · rename_i same
    simp [ActionSpec.withoutMix, listed, same]
  · rfl

lemma actionCode_replaceMix (item : String × Row ActionSpec) :
    (replaceMix actionCode contentMix item).actionCode = item.2.content.actionCode := by
  rw [replaceMix]
  split
  · rfl
  · rfl

/-- What a change of the mix leaves: the table with its open rows ended, and the actions in force on `start`
    once more under the next version. -/
structure SavesCopy (s s' : ActionCatalog) (actionCode contentMix : String) (version : ℤ) (start : Date)
    (publishedAt : Instant) : Prop where
  below : ∀ r ∈ s.rows, r.version < version
  rows : s'.rows = s.rows.map (closeRow version start) ++
    (loadActiveActions s start).items.map (savedRow actionCode contentMix version start publishedAt)
  some_ : (loadActiveActions s start).items ≠ []
  changes : ¬ HasMix s actionCode contentMix start

/-- A change that succeeds finds the mix set, or saves the copy. -/
lemma setActionContentMix_ok {validFrom : Option Date}
    (ok : setActionContentMix s actionCode contentMix validFrom today publishedAt = .ok (v, s')) :
    HasMix s actionCode contentMix (validFrom.getD today) ∧ s' = s ∨
      SavesCopy s s' actionCode contentMix v (validFrom.getD today) publishedAt := by
  rw [setActionContentMix] at ok
  split at ok
  · cases ok
  · simp only at ok
    split at ok
    · cases ok
    · rename_i before found
      split at ok
      · rename_i same
        cases ok
        exact .inl ⟨⟨before, found, same⟩, rfl⟩
      · rename_i other
        right
        generalize saved : saveActionCatalogVersion s _ _ _ _ _ _ = result at ok
        cases result with
        | error error => cases ok
        | ok t =>
          cases ok
          obtain ⟨_, rows, _⟩ := saveVersion_ok saved
          refine ⟨fun r mem => version_lt_next rfl mem, ?_, ?_, ?_⟩
          · rw [rows, List.map_map, List.map_map]
            rfl
          · exact List.ne_nil_of_mem ((Dict.mem_items_iff _).mpr found)
          · rintro ⟨row, found', same⟩
            rw [loadAction, found] at found'
            exact other (Option.some.inj found' ▸ same)

namespace SavesCopy

lemma savedRow_version {n : Row ActionSpec} (mem : n ∈ (loadActiveActions s start).items.map
    (savedRow actionCode contentMix version start publishedAt)) : n.version = version := by
  obtain ⟨item, _, same⟩ := List.mem_map.mp mem
  subst same
  rfl

variable (saves : SavesCopy s s' actionCode contentMix version start publishedAt)
include saves

/-- An earlier version keeps its actions. -/
lemma actionsOf_old (old : v ≠ version) :
    actionsOf s'.rows v = (actionsOf s.rows v).mapValues (closeRow version start) := by
  have none_ : ((loadActiveActions s start).items.map
      (savedRow actionCode contentMix version start publishedAt)).filter (·.version = v) = [] := by
    refine List.filter_eq_nil_iff.mpr fun n mem same => old ?_
    exact (of_decide_eq_true same).symm.trans (savedRow_version mem)
  have items : ((actionsOf s.rows v).mapValues (closeRow version start)).items =
      (actionsOf s.rows v).items.map fun item => (item.1, closeRow version start item.2) := rfl
  apply Dict.ext_items
  rw [items, items_actionsOf, items_actionsOf, saves.rows, List.filter_append, none_,
    List.append_nil, List.filter_map, List.map_map, List.map_map]
  have same : ((fun r : Row ActionSpec => decide (r.version = v)) ∘ closeRow version start) =
      fun r => decide (r.version = v) := by
    funext r
    simp
  rw [same]
  refine List.map_congr_left fun r _ => ?_
  simp

/-- The new version holds the actions in force on `start`. -/
lemma actionsOf_new : actionsOf s'.rows version = (loadActiveActions s start).mapEntries fun code row =>
    savedRow actionCode contentMix version start publishedAt (code, row) := by
  have none_ : (s.rows.map (closeRow version start)).filter (·.version = version) = [] := by
    refine List.filter_eq_nil_iff.mpr fun n mem same => ?_
    obtain ⟨r, given, made⟩ := List.mem_map.mp mem
    have eq := of_decide_eq_true same
    rw [← made, version_closeRow] at eq
    exact (saves.below r given).ne eq
  have all : ((loadActiveActions s start).items.map
      (savedRow actionCode contentMix version start publishedAt)).filter (·.version = version) =
      (loadActiveActions s start).items.map
        (savedRow actionCode contentMix version start publishedAt) :=
    List.filter_eq_self.mpr fun n mem => decide_eq_true (savedRow_version mem)
  apply Dict.ext_items
  rw [items_actionsOf, Dict.mapEntries, saves.rows, List.filter_append, none_, List.nil_append, all,
    List.map_map]
  refine List.map_congr_left fun item mem => ?_
  have listed := code_of_loadActiveActions mem
  rw [Function.comp_apply, savedRow, Store.publishedRow, actionCode_replaceMix, listed]

/-- Before `start` the table answers as it did. -/
lemma before (early : date < start) (code : String) :
    (loadAction s' code date).map openEnded = (loadAction s code date).map openEnded := by
  have active : activeVersion s'.rows date = activeVersion s.rows date := by
    rw [saves.rows]
    refine activeVersion_saved_before early fun n mem => ?_
    obtain ⟨item, _, same⟩ := List.mem_map.mp mem
    subst same
    rfl
  cases was : activeVersion s.rows date with
  | none => rw [loadAction, loadAction, loadActiveActions, loadActiveActions,
      activeActionCatalogVersion, activeActionCatalogVersion, active, was]
  | some v =>
    obtain ⟨r, leads, named⟩ := leads_of_activeVersion was
    have old : v ≠ version := named ▸ (saves.below r leads.mem).ne
    rw [loadAction_of_active was, loadAction_of_active (active.trans was), saves.actionsOf_old old,
      Dict.get?_mapValues, Option.map_map]
    refine congrArg (fun f => Option.map f _) ?_
    funext r
    exact openEnded_closeRow

lemma active (late : start ≤ date) : activeVersion s'.rows date =
    some ((activeVersion (stillScheduled start s.rows) date).getD version) := by
  rw [saves.rows]
  refine activeVersion_saved_since late saves.below (fun n => savedRow_version) ?_ ?_ ?_
  · intro n mem
    obtain ⟨item, _, same⟩ := List.mem_map.mp mem
    subst same
    rfl
  · intro n mem
    obtain ⟨item, _, same⟩ := List.mem_map.mp mem
    subst same
    rfl
  · exact fun none_ => saves.some_ (List.map_eq_nil_iff.mp none_)

/-- On the first day the new version is in force. -/
lemma active_start : activeVersion s'.rows start = some version := by
  have none_ : activeVersion (stillScheduled start s.rows) start = none := by
    rw [activeVersion_eq_none]
    intro r mem
    obtain ⟨_, _, d, from_, after⟩ := mem_stillScheduled.mp mem
    rw [Row.inForce, from_]
    simp [not_le.mpr after]
  rw [saves.active le_rfl, none_]
  rfl

/-- From `start` on a date takes its actions from its heir, the mix that was set apart. -/
lemma since (late : start ≤ date) (code : String) :
    (loadAction s' code date).map (·.content.withoutMix actionCode) =
      ((heir start s.rows date).bind fun version => (actionsOf s.rows version).get? code).map
        (·.content.withoutMix actionCode) := by
  have active := saves.active late
  cases scheduled : activeVersion (stillScheduled start s.rows) date with
  | some w =>
    rw [scheduled] at active
    obtain ⟨m, leads, named⟩ := leads_of_activeVersion scheduled
    have old : w ≠ version := named ▸ (saves.below m (mem_stillScheduled.mp leads.mem).1).ne
    rw [heir, scheduled, loadAction_of_active active, Option.getD_some, saves.actionsOf_old old,
      Dict.get?_mapValues, Option.map_map, Option.some_or, Option.bind_some]
    refine congrArg (fun f => Option.map f _) ?_
    funext r
    rw [Function.comp_apply, content_closeRow]
  | none =>
    rw [scheduled] at active
    rw [heir, scheduled, loadAction_of_active active, Option.getD_none, saves.actionsOf_new,
      Dict.get?_mapEntries, Option.map_map, Option.none_or]
    have current : ((activeVersion s.rows start).bind fun version =>
        (actionsOf s.rows version).get? code) = (loadActiveActions s start).get? code := by
      rw [loadActiveActions, activeActionCatalogVersion]
      cases activeVersion s.rows start with
      | none => rfl
      | some _ => rfl
    rw [current]
    cases found : (loadActiveActions s start).get? code with
    | none => rfl
    | some row =>
      have listed := code_of_loadActiveActions ((Dict.mem_items_iff _).mpr found)
      exact congrArg some (withoutMix_replaceMix listed)

/-- The copy changes only the mix exactly when each date's heir has the date's actions. -/
lemma changesOnlyMix_iff :
    ChangesOnlyMix s s' actionCode start ↔ KeepsSchedule s actionCode start := by
  constructor
  · intro only date late code
    rw [← saves.since late code]
    exact only.since date late code
  · intro keeps
    refine ⟨fun date early code => saves.before early code, fun date late code => ?_⟩
    rw [saves.since late code]
    exact keeps date late code

end SavesCopy

/-- After a change that succeeds the action has the mix on the first day. -/
theorem setActionContentMix_sets {validFrom : Option Date}
    (ok : setActionContentMix s actionCode contentMix validFrom today publishedAt = .ok (v, s')) :
    HasMix s' actionCode contentMix (validFrom.getD today) := by
  have inForce : ∃ row, loadAction s actionCode (validFrom.getD today) = some row := by
    rw [setActionContentMix] at ok
    split at ok
    · cases ok
    · simp only at ok
      split at ok
      · cases ok
      · rename_i before found
        exact ⟨before, found⟩
  cases setActionContentMix_ok ok with
  | inl kept =>
    obtain ⟨has, same⟩ := kept
    exact same ▸ has
  | inr saves =>
    obtain ⟨row, found⟩ := inForce
    refine ⟨savedRow actionCode contentMix v (validFrom.getD today) publishedAt (actionCode, row), ?_, ?_⟩
    · rw [loadAction_of_active saves.active_start, saves.actionsOf_new, Dict.get?_mapEntries]
      rw [loadAction] at found
      rw [found]
      rfl
    · simp [savedRow, Store.publishedRow, replaceMix]

/-- Setting one action's mix changes nothing else exactly when the action had it, or when on each date from
    then on the scheduled version that keeps its end date, or else the catalogue of the first day, has the
    actions in force. -/
theorem mix_changes_only_iff {validFrom : Option Date}
    (ok : setActionContentMix s actionCode contentMix validFrom today publishedAt = .ok (v, s')) :
    ChangesOnlyMix s s' actionCode (validFrom.getD today) ↔
      HasMix s actionCode contentMix (validFrom.getD today) ∨
        KeepsSchedule s actionCode (validFrom.getD today) := by
  cases setActionContentMix_ok ok with
  | inl kept =>
    obtain ⟨has, same⟩ := kept
    subst same
    exact ⟨fun _ => .inl has, fun _ => ⟨fun _ _ _ => rfl, fun _ _ _ => rfl⟩⟩
  | inr saves =>
    rw [saves.changesOnlyMix_iff]
    refine ⟨.inr, fun meets => ?_⟩
    cases meets with
    | inl has => exact absurd has saves.changes
    | inr keeps => exact keeps

/-- A well-formed action. -/
def sampleAction (title : String) : ActionSpec where
  actionCode := "fee_warning"
  title := title
  who := "clients with a small balance"
  evidenceRequired := "a balance"
  responseKind := "monitor_only"
  contentMix := "balanced"
  defaultPermission := "suggest_only"

/-- A catalogue that ends on day 200, when the next one starts. -/
def scheduledCatalog : ActionCatalog where
  rows := [Store.publishedRow 1 0 (some 200) 0 defaultComponentKey (sampleAction "first"),
    Store.publishedRow 2 200 none 0 defaultComponentKey (sampleAction "second")]
  active := .empty
  unique := by decide

/-- One catalogue, open-ended. -/
def openCatalog : ActionCatalog where
  rows := [Store.publishedRow 1 0 none 0 defaultComponentKey (sampleAction "first")]
  active := .empty
  unique := by decide

theorem mix_changes_only_iff_sample : ∃ v s',
    setActionContentMix openCatalog "fee_warning" "learning_only" (some 100) 0 0 = .ok (v, s') ∧
      (ChangesOnlyMix openCatalog s' "fee_warning" 100 ↔
        HasMix openCatalog "fee_warning" "learning_only" 100 ∨
          KeepsSchedule openCatalog "fee_warning" 100) := by
  have made : (setActionContentMix openCatalog "fee_warning" "learning_only" (some 100) 0
      0).toOption.isSome = true := by decide +kernel
  cases ok : setActionContentMix openCatalog "fee_warning" "learning_only" (some 100) 0 0 with
  | error error =>
    rw [ok] at made
    cases made
  | ok result => exact ⟨result.1, result.2, rfl, mix_changes_only_iff ok⟩

/-- A change before the scheduled version ends it before it starts. -/
theorem scheduled_version_lost :
    ¬ ∀ (s s' : ActionCatalog) (actionCode contentMix : String) (validFrom : Option Date) (today : Date)
      (publishedAt : Instant) (v : ℤ),
      setActionContentMix s actionCode contentMix validFrom today publishedAt = .ok (v, s') →
        ChangesOnlyMix s s' actionCode (validFrom.getD today) := by
  intro h
  have after : ((setActionContentMix scheduledCatalog "fee_warning" "learning_only" (some 100) 0
      0).toOption.bind fun result => (loadAction result.2 "fee_warning" 250).map (·.content.title)) =
        some "first" := by decide +kernel
  have was : (loadAction scheduledCatalog "fee_warning" 250).map (·.content.title) = some "second" := by
    decide +kernel
  cases ok : setActionContentMix scheduledCatalog "fee_warning" "learning_only" (some 100) 0 0 with
  | error error =>
    rw [ok] at after
    cases after
  | ok result =>
    rw [ok] at after
    have same := (h _ _ _ _ _ _ _ _ ok).since 250 (by decide) "fee_warning"
    have title : ∀ row : Row ActionSpec,
        (row.content.withoutMix "fee_warning").title = row.content.title := by
      intro row
      rw [ActionSpec.withoutMix]
      split
      · rfl
      · rfl
    have titles := congrArg (Option.map ActionSpec.title) same
    simp only [Option.map_map, Function.comp_def, title] at titles
    have first : (loadAction result.2 "fee_warning" 250).map (·.content.title) = some "first" := after
    rw [first, was] at titles
    exact absurd titles (by decide)

end ClientEngagement.Agents
