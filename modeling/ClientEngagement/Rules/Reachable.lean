import ClientEngagement.Rules.Engine
import ClientEngagement.Rules.LiveConfig

/-!
# Rules that can win

`validate_rules` refuses a rule that one earlier rule covers, field by field (`covers`). A rule may still never
win: earlier rules can cover it together, and one that lists every value of a field covers a rule that leaves
the field open. `Separable` is the exact condition for a rule to win somewhere, and `accepted_sound_iff` says
that an accepted set has no dead rule exactly when each of its rules meets it.
-/

namespace ClientEngagement.Rules

/-! ## Resolving to a row -/

/-- A value of a feature map: a flag, or anything else by its text. -/
inductive FeatureValue where
  | flag (value : Bool)
  | other (text : String)

/-- `_as_str`. -/
def asStr : FeatureValue → String
  | .flag true => "true"
  | .flag false => "false"
  | .other text => text

/-- The loop of `resolve`, with the row that `rule_id` names. -/
def firstRow (view : Dict String String) : List (Row RuleRow) → Except ResolveError (Row RuleRow)
  | [] => .error (.noRuleMatched (sortBy id view.keys))
  | row :: rest =>
    match matchOf? row.content.matchFields with
    | none => .error (.unreadableMatch row.content.name)
    | some matchFields => if matchesFeatures matchFields view then .ok row else firstRow view rest

/-- `resolve`, with the row that wins. -/
def resolveRow (features : Dict String FeatureValue) (rules : List (Row RuleRow)) :
    Except ResolveError (Row RuleRow) :=
  firstRow (allowedView (features.mapValues asStr)) (sortBy (fun row => row.content.priority) rules)

lemma resolve_eq (features : Dict String FeatureValue) (rules : List (Row RuleRow)) :
    resolve (features.mapValues asStr) rules = (resolveRow features rules).map resolutionOf := by
  rw [resolve, resolveRow]
  generalize sortBy (fun row : Row RuleRow => row.content.priority) rules = rows
  induction rows with
  | nil => rfl
  | cons row rows ih =>
    rw [firstMatch, firstRow]
    cases matchOf? row.content.matchFields with
    | none => rfl
    | some matchFields =>
      dsimp only
      split
      · rfl
      · exact ih

/-- Each allow-listed feature has a value of its domain. -/
def Assigned (features : Dict String FeatureValue) : Prop :=
  ∀ field domain, ruleFieldDomains.get? field = some domain →
    ∃ value, features.get? field = some value ∧ asStr value ∈ domain

/-! ## The condition -/

/-- The values of a field that a rule allows: those it lists, or every value of the domain. -/
def allowedValues (rule : RuleSpec) (field : String) : List String :=
  (rule.matchFields.get? field).getD (ruleFieldDomains.getD field [])

/-- For each earlier rule one of its fields can be picked so that in every field the rule allows a value that no
    earlier rule which the field was picked for allows. -/
def Separable (rules : List RuleSpec) (rule : RuleSpec) : Prop :=
  ∃ pick : RuleSpec → String,
    (∀ earlier ∈ rules, earlier.priority < rule.priority → pick earlier ∈ earlier.matchFields.keys) ∧
      ∀ field ∈ ruleFieldDomains.keys, ∃ value ∈ allowedValues rule field,
        ∀ earlier ∈ rules, earlier.priority < rule.priority → pick earlier = field →
          value ∉ allowedValues earlier field

/-- The rows hold the rules. -/
abbrev Holds (rows : List (Row RuleRow)) (rules : List RuleSpec) : Prop :=
  List.Forall₂ (fun row rule => row.content.spec? = some rule) rows rules

variable {rules : List RuleSpec} {rows : List (Row RuleRow)} {rule : RuleSpec} {row : Row RuleRow}
  {features features' : Dict String FeatureValue} {view : Dict String String} {field : String}

/-! ## What an accepted set is -/

/-- A match field of an accepted rule is allow-listed and lists values of its domain. -/
lemma domain_of_accepted (accepted : validateRules rules = .ok ()) (mem : rule ∈ rules) {values : List String}
    (listed : rule.matchFields.get? field = some values) :
    ∃ domain, ruleFieldDomains.get? field = some domain ∧ ∀ value ∈ values, value ∈ domain := by
  have sound := (validateRules_iff.mp accepted).2.2.1 rule mem
  rw [ruleError] at sound
  split at sound
  · cases sound
  next fields =>
    have own : fieldError rule field values = none :=
      List.findSome?_eq_none_iff.mp fields (field, values) ((rule.matchFields.mem_items_iff).mpr listed)
    rw [fieldError] at own
    split at own
    · cases own
    next domain known =>
      refine ⟨domain, known, ?_⟩
      intro value there
      by_contra outside
      have among : value ∈ sortBy id (values.filter (· ∉ domain)).dedup := by simp [there, outside]
      rw [if_neg (List.ne_nil_of_mem there), if_pos (List.ne_nil_of_mem among)] at own
      cases own

lemma matchesFeatures_iff : matchesFeatures rule.matchFields view = true ↔
    ∀ field values, rule.matchFields.get? field = some values →
      ∃ value, view.get? field = some value ∧ value ∈ values := by
  rw [matchesFeatures, List.all_eq_true]
  constructor
  · intro all field values listed
    have here := all _ ((rule.matchFields.mem_items_iff).mpr listed)
    rw [Option.any_eq_true] at here
    obtain ⟨value, there, allowed⟩ := here
    exact ⟨value, there, of_decide_eq_true allowed⟩
  · intro every ⟨field, values⟩ mem
    obtain ⟨value, there, allowed⟩ := every field values ((rule.matchFields.mem_items_iff).mp mem)
    rw [Option.any_eq_true]
    exact ⟨value, there, decide_eq_true allowed⟩

/-! ## The winner -/

/-- In priority order the loop returns the first row whose match the view meets. -/
lemma firstRow_eq_ok_iff (order : rows.Pairwise fun a b => a.content.priority < b.content.priority)
    (read : ∀ row ∈ rows, ∃ rule, row.content.spec? = some rule) :
    firstRow view rows = .ok row ↔
      row ∈ rows ∧ (∃ rule, row.content.spec? = some rule ∧ matchesFeatures rule.matchFields view) ∧
        ∀ earlier ∈ rows, earlier.content.priority < row.content.priority →
          ∀ rule, earlier.content.spec? = some rule → ¬ matchesFeatures rule.matchFields view := by
  induction rows with
  | nil => exact ⟨nofun, fun ⟨mem, _⟩ => nomatch mem⟩
  | cons first rows ih =>
    obtain ⟨least, order⟩ := List.pairwise_cons.mp order
    obtain ⟨rule, spec⟩ := read first (List.mem_cons_self ..)
    have fields : matchOf? first.content.matchFields = some rule.matchFields := by
      rw [RuleRow.spec?, Option.map_eq_some_iff] at spec
      obtain ⟨_, fields, rfl⟩ := spec
      exact fields
    rw [firstRow, fields]
    dsimp only
    by_cases meets : matchesFeatures rule.matchFields view = true
    · rw [if_pos meets, Except.ok.injEq]
      constructor
      · rintro rfl
        refine ⟨List.mem_cons_self .., ⟨rule, spec, meets⟩, ?_⟩
        intro earlier mem before
        obtain rfl | later := List.mem_cons.mp mem
        · exact absurd before (lt_irrefl _)
        · exact absurd before (not_lt.mpr (least earlier later).le)
      · rintro ⟨mem, _, others⟩
        obtain rfl | later := List.mem_cons.mp mem
        · rfl
        · exact absurd meets (others first (List.mem_cons_self ..) (least row later) rule spec)
    · rw [if_neg meets, ih order fun row mem => read row (List.mem_cons_of_mem _ mem)]
      constructor
      · rintro ⟨mem, own, others⟩
        refine ⟨List.mem_cons_of_mem _ mem, own, ?_⟩
        intro earlier there before rule' spec'
        obtain rfl | later := List.mem_cons.mp there
        · rw [spec, Option.some_inj] at spec'
          exact spec' ▸ meets
        · exact others earlier later before rule' spec'
      · rintro ⟨mem, ⟨rule', spec', own⟩, others⟩
        refine ⟨?_, ⟨rule', spec', own⟩, fun earlier later => others earlier (List.mem_cons_of_mem _ later)⟩
        obtain rfl | later := List.mem_cons.mp mem
        · rw [spec, Option.some_inj] at spec'
          exact absurd (spec' ▸ own) meets
        · exact later

/-! ## The rows of a rule set -/

lemma Holds.rule_of_row (holds : Holds rows rules) (mem : row ∈ rows) :
    ∃ rule ∈ rules, row.content.spec? = some rule := by
  induction holds with
  | nil => cases mem
  | cons spec _ ih =>
    obtain rfl | later := List.mem_cons.mp mem
    · exact ⟨_, List.mem_cons_self .., spec⟩
    · obtain ⟨rule, there, spec⟩ := ih later
      exact ⟨rule, List.mem_cons_of_mem _ there, spec⟩

lemma Holds.row_of_rule (holds : Holds rows rules) (mem : rule ∈ rules) :
    ∃ row ∈ rows, row.content.spec? = some rule := by
  induction holds with
  | nil => cases mem
  | cons spec _ ih =>
    obtain rfl | later := List.mem_cons.mp mem
    · exact ⟨_, List.mem_cons_self .., spec⟩
    · obtain ⟨row, there, spec⟩ := ih later
      exact ⟨row, List.mem_cons_of_mem _ there, spec⟩

lemma priority_of_spec? (spec : row.content.spec? = some rule) : row.content.priority = rule.priority := by
  rw [RuleRow.spec?, Option.map_eq_some_iff] at spec
  obtain ⟨_, _, rfl⟩ := spec
  rfl

lemma Holds.priorities (holds : Holds rows rules) :
    rows.map (fun row => row.content.priority) = rules.map RuleSpec.priority := by
  induction holds with
  | nil => rfl
  | cons spec _ ih => rw [List.map_cons, List.map_cons, ih, priority_of_spec? spec]

lemma Holds.sorted (holds : Holds rows rules) (accepted : validateRules rules = .ok ()) :
    (sortBy (fun row => row.content.priority) rows).Pairwise fun a b =>
      a.content.priority < b.content.priority := by
  have once : ((sortBy (fun row => row.content.priority) rows).map fun row => row.content.priority).Nodup := by
    rw [((sortBy_perm _ rows).map _).nodup_iff, holds.priorities]
    exact (validateRules_iff.mp accepted).2.1
  have distinct := List.pairwise_map.mp once
  exact ((sortBy_pairwise _ rows).and distinct).imp fun ⟨le, ne⟩ => lt_of_le_of_ne le ne

/-- The rule that wins is the first one the features meet. -/
lemma resolveRow_eq_ok_iff (accepted : validateRules rules = .ok ()) (holds : Holds rows rules)
    (mem : row ∈ rows) (spec : row.content.spec? = some rule) :
    resolveRow features rows = .ok row ↔
      matchesFeatures rule.matchFields (allowedView (features.mapValues asStr)) ∧
        ∀ earlier ∈ rules, earlier.priority < rule.priority →
          ¬ matchesFeatures earlier.matchFields (allowedView (features.mapValues asStr)) := by
  rw [resolveRow, firstRow_eq_ok_iff (holds.sorted accepted)]
  · constructor
    · rintro ⟨_, ⟨rule', spec', own⟩, others⟩
      obtain rfl : rule = rule' := by rwa [spec, Option.some_inj] at spec'
      refine ⟨own, ?_⟩
      intro earlier there before
      obtain ⟨row', mem', spec'⟩ := holds.row_of_rule there
      refine others row' (mem_sortBy.mpr mem') ?_ earlier spec'
      rw [priority_of_spec? spec', priority_of_spec? spec]
      exact before
    · rintro ⟨own, others⟩
      refine ⟨mem_sortBy.mpr mem, ⟨rule, spec, own⟩, ?_⟩
      intro row' mem' before earlier spec'
      obtain ⟨rule', there, same⟩ := holds.rule_of_row (mem_sortBy.mp mem')
      obtain rfl : earlier = rule' := by rwa [spec', Option.some_inj] at same
      refine others earlier there ?_
      rw [← priority_of_spec? spec', ← priority_of_spec? spec]
      exact before
  · intro row mem
    obtain ⟨rule, _, spec⟩ := holds.rule_of_row (mem_sortBy.mp mem)
    exact ⟨rule, spec⟩

/-! ## Rules that win -/

lemma get?_view (known : field ∈ ruleFieldDomains.keys) :
    (allowedView (features.mapValues asStr)).get? field = (features.get? field).map asStr := by
  rw [allowedView, Dict.get?_filterKeys, if_pos (ruleFieldDomains.contains_iff.mpr known), Dict.get?_mapValues]

lemma get?_view_of_not_mem (unknown : field ∉ ruleFieldDomains.keys) :
    (allowedView (features.mapValues asStr)).get? field = none := by
  rw [allowedView, Dict.get?_filterKeys, if_neg (ruleFieldDomains.contains_iff.not.mpr unknown)]

lemma allowedValues_of_listed {values : List String} (listed : rule.matchFields.get? field = some values) :
    allowedValues rule field = values := by
  rw [allowedValues, listed]
  rfl

lemma allowedValues_sub (accepted : validateRules rules = .ok ()) (mem : rule ∈ rules) {domain : List String}
    (known : ruleFieldDomains.get? field = some domain) {value : String}
    (allowed : value ∈ allowedValues rule field) : value ∈ domain := by
  cases listed : rule.matchFields.get? field with
  | none =>
    rw [allowedValues, listed, Option.getD_none, Dict.getD, known] at allowed
    exact allowed
  | some values =>
    obtain ⟨domain', known', within⟩ := domain_of_accepted accepted mem listed
    obtain rfl : domain = domain' := by rwa [known, Option.some_inj] at known'
    rw [allowedValues_of_listed listed] at allowed
    exact within value allowed

/-- A rule that wins somewhere is separable: for each earlier rule pick the field it fails on. -/
lemma separable_of_wins (accepted : validateRules rules = .ok ()) (assigned : Assigned features)
    (own : matchesFeatures rule.matchFields (allowedView (features.mapValues asStr)))
    (others : ∀ earlier ∈ rules, earlier.priority < rule.priority →
      ¬ matchesFeatures earlier.matchFields (allowedView (features.mapValues asStr))) :
    Separable rules rule := by
  have fails : ∀ earlier : RuleSpec, ∃ field, earlier ∈ rules → earlier.priority < rule.priority →
      field ∈ earlier.matchFields.keys ∧ ∀ value, features.get? field = some value →
        asStr value ∉ allowedValues earlier field := by
    intro earlier
    by_cases listed : earlier ∈ rules ∧ earlier.priority < rule.priority
    · have missed := others earlier listed.1 listed.2
      rw [matchesFeatures_iff] at missed
      push Not at missed
      obtain ⟨field, values, entry, missed⟩ := missed
      refine ⟨field, fun _ _ => ⟨(earlier.matchFields.mem_keys_iff).mpr ⟨values, entry⟩, ?_⟩⟩
      intro value there
      obtain ⟨domain, known, _⟩ := domain_of_accepted accepted listed.1 entry
      rw [allowedValues_of_listed entry]
      apply missed
      rw [get?_view ((ruleFieldDomains.mem_keys_iff).mpr ⟨domain, known⟩), there]
      rfl
    · exact ⟨"", fun mem before => absurd ⟨mem, before⟩ listed⟩
  choose pick picked using fails
  refine ⟨pick, fun earlier mem before => (picked earlier mem before).1, ?_⟩
  intro field mem
  obtain ⟨domain, known⟩ := (ruleFieldDomains.mem_keys_iff).mp mem
  obtain ⟨value, there, inside⟩ := assigned field domain known
  refine ⟨asStr value, ?_, ?_⟩
  · cases listed : rule.matchFields.get? field with
    | none =>
      rw [allowedValues, listed, Option.getD_none, Dict.getD, known]
      exact inside
    | some values =>
      obtain ⟨value', there', allowed⟩ := matchesFeatures_iff.mp own field values listed
      rw [get?_view mem, there, Option.map_some, Option.some_inj] at there'
      rw [allowedValues_of_listed listed, there']
      exact allowed
  · rintro earlier mem' before rfl
    exact (picked earlier mem' before).2 value there

/-- The features that have a chosen value in every allow-listed field. -/
def assignment (choice : String → String) : Dict String FeatureValue :=
  ruleFieldDomains.mapEntries fun field _ => .other (choice field)

lemma get?_assignment (choice : String → String) (known : field ∈ ruleFieldDomains.keys) :
    (assignment choice).get? field = some (.other (choice field)) := by
  obtain ⟨domain, known⟩ := (ruleFieldDomains.mem_keys_iff).mp known
  rw [assignment, Dict.get?_mapEntries, known]
  rfl

/-- A separable rule wins where every field has the value that sets it apart. -/
lemma wins_of_separable (accepted : validateRules rules = .ok ()) (mem : rule ∈ rules)
    (separable : Separable rules rule) :
    ∃ features, Assigned features ∧ matchesFeatures rule.matchFields (allowedView (features.mapValues asStr)) ∧
      ∀ earlier ∈ rules, earlier.priority < rule.priority →
        ¬ matchesFeatures earlier.matchFields (allowedView (features.mapValues asStr)) := by
  obtain ⟨pick, picked, apart⟩ := separable
  choose! choice allowed missed using apart
  have view {field : String} (known : field ∈ ruleFieldDomains.keys) :
      (allowedView ((assignment choice).mapValues asStr)).get? field = some (choice field) := by
    rw [get?_view known, get?_assignment choice known]
    rfl
  refine ⟨assignment choice, ?_, ?_, ?_⟩
  · intro field domain known
    have listed := (ruleFieldDomains.mem_keys_iff).mpr ⟨domain, known⟩
    exact ⟨_, get?_assignment choice listed, allowedValues_sub accepted mem known (allowed field listed)⟩
  · rw [matchesFeatures_iff]
    intro field values listed
    obtain ⟨domain, known, _⟩ := domain_of_accepted accepted mem listed
    have there := (ruleFieldDomains.mem_keys_iff).mpr ⟨domain, known⟩
    refine ⟨choice field, view there, ?_⟩
    rw [← allowedValues_of_listed listed]
    exact allowed field there
  · intro earlier mem' before meets
    obtain ⟨values, listed⟩ := (earlier.matchFields.mem_keys_iff).mp (picked earlier mem' before)
    obtain ⟨domain, known, _⟩ := domain_of_accepted accepted mem' listed
    have there := (ruleFieldDomains.mem_keys_iff).mpr ⟨domain, known⟩
    obtain ⟨value, same, inside⟩ := matchesFeatures_iff.mp meets _ values listed
    rw [view there, Option.some_inj] at same
    apply missed (pick earlier) there earlier mem' before rfl
    rw [allowedValues_of_listed listed, same]
    exact inside

/-! ## Order and stray features -/

/-- The rows in another order resolve to the same row. -/
lemma resolveRow_perm {rows' : List (Row RuleRow)} (accepted : validateRules rules = .ok ())
    (holds : Holds rows rules) (perm : rows'.Perm rows) :
    resolveRow features rows' = resolveRow features rows := by
  have once : (rows.map fun row => row.content.priority).Nodup := by
    rw [holds.priorities]
    exact (validateRules_iff.mp accepted).2.1
  rw [resolveRow, resolveRow, sortBy_eq_of_perm perm.symm]
  intro a mem b mem' same
  exact List.inj_on_of_nodup_map once mem mem' same

lemma matchesFeatures_same {view' : Dict String String} (same : view.Same view')
    (matchFields : Dict String (List String)) :
    matchesFeatures matchFields view = matchesFeatures matchFields view' := by
  rw [matchesFeatures, matchesFeatures]
  congr 1
  funext ⟨field, allowed⟩
  exact congrArg (Option.any _) (same field)

lemma firstRow_same {view' : Dict String String} (same : view.Same view') (rows : List (Row RuleRow)) :
    firstRow view rows = firstRow view' rows := by
  induction rows with
  | nil =>
    rw [firstRow, firstRow, sortBy_eq_of_perm same.keys_perm]
    exact fun a _ b _ => id
  | cons row rows ih =>
    rw [firstRow, firstRow, ih]
    simp only [matchesFeatures_same same]

/-- Features outside the allow-list are not looked at. -/
lemma resolveRow_agree (rows : List (Row RuleRow))
    (agree : ∀ field ∈ ruleFieldDomains.keys, features.get? field = features'.get? field) :
    resolveRow features rows = resolveRow features' rows := by
  apply firstRow_same
  intro field
  by_cases known : field ∈ ruleFieldDomains.keys
  · rw [get?_view known, get?_view known, agree field known]
  · rw [get?_view_of_not_mem known, get?_view_of_not_mem known]

/-- In an accepted set every rule wins somewhere, in whatever order the rows are and whatever else the features
    hold, exactly when every rule is separable from those before it. -/
theorem accepted_sound_iff (accepted : validateRules rules = .ok ()) (holds : Holds rows rules) :
    ((∀ row ∈ rows, ∃ features, Assigned features ∧ resolveRow features rows = .ok row) ∧
        (∀ rows' features, rows'.Perm rows → resolveRow features rows' = resolveRow features rows) ∧
        ∀ features features', (∀ field ∈ ruleFieldDomains.keys, features.get? field = features'.get? field) →
          resolveRow features rows = resolveRow features' rows) ↔
      ∀ rule ∈ rules, Separable rules rule := by
  constructor
  · rintro ⟨wins, _⟩ rule mem
    obtain ⟨row, there, spec⟩ := holds.row_of_rule mem
    obtain ⟨features, assigned, won⟩ := wins row there
    rw [resolveRow_eq_ok_iff accepted holds there spec] at won
    exact separable_of_wins accepted assigned won.1 won.2
  · intro separable
    refine ⟨?_, fun _ _ => resolveRow_perm accepted holds, fun _ _ => resolveRow_agree rows⟩
    intro row there
    obtain ⟨rule, mem, spec⟩ := holds.rule_of_row there
    obtain ⟨features, assigned, won⟩ := wins_of_separable accepted mem (separable rule mem)
    exact ⟨features, assigned, (resolveRow_eq_ok_iff accepted holds there spec).mpr won⟩

/-- A rule for the clients with one value of `has_balance`. -/
def balanceRule (priority : ℤ) (value : String) : RuleSpec :=
  { name := "balance " ++ value, priority := priority, matchFields := .ofList [("has_balance", [value])] }

def everyoneRule (priority : ℤ) : RuleSpec := { name := "everyone", priority := priority }

/-- The rules as rows of a version. -/
def rowsOf (version : ℤ) (rules : List RuleSpec) : List (Row RuleRow) :=
  rules.map fun rule => ⟨version, defaultComponentKey, .published, none, none, none, none, none, rule.row⟩

lemma holds_rowsOf (version : ℤ) (rules : List RuleSpec) : Holds (rowsOf version rules) rules := by
  rw [Holds, rowsOf, List.forall₂_map_left_iff, List.forall₂_same]
  exact fun rule _ => spec?_row rule

theorem accepted_sound_iff_fallback :
    Holds (rowsOf 1 [balanceRule 1 "true", everyoneRule 2]) [balanceRule 1 "true", everyoneRule 2] ∧
      ∀ row ∈ rowsOf 1 [balanceRule 1 "true", everyoneRule 2], ∃ features, Assigned features ∧
        resolveRow features (rowsOf 1 [balanceRule 1 "true", everyoneRule 2]) = .ok row := by
  have separable : ∀ rule ∈ [balanceRule 1 "true", everyoneRule 2],
      Separable [balanceRule 1 "true", everyoneRule 2] rule := by
    intro rule mem
    refine ⟨fun _ => "has_balance", ?_, ?_⟩
    · revert rule
      decide +kernel
    · revert rule
      decide +kernel
  exact ⟨holds_rowsOf 1 _, ((accepted_sound_iff (by decide +kernel) (holds_rowsOf 1 _)).mpr separable).1⟩

/-- Rules for clients with a balance and for clients without leave nobody to a rule for everyone, and the three
    are accepted. -/
theorem covered_together_dead :
    ¬ ∀ (rules : List RuleSpec) (rows : List (Row RuleRow)), validateRules rules = .ok () → Holds rows rules →
      ∀ row ∈ rows, ∃ features, Assigned features ∧ resolveRow features rows = .ok row := by
  intro every
  let rules := [balanceRule 1 "true", balanceRule 2 "false", everyoneRule 3]
  have accepted : validateRules rules = .ok () := by decide +kernel
  have holds : Holds (rowsOf 1 rules) rules := holds_rowsOf 1 rules
  have last : everyoneRule 3 ∈ rules := by simp [rules]
  obtain ⟨row, mem, spec⟩ := holds.row_of_rule last
  obtain ⟨features, assigned, won⟩ := every rules _ accepted holds row mem
  rw [resolveRow_eq_ok_iff accepted holds mem spec] at won
  have known : "has_balance" ∈ ruleFieldDomains.keys := by decide +kernel
  obtain ⟨value, there, inside⟩ := assigned "has_balance" ["true", "false"] (by decide +kernel)
  have met (priority : ℤ) : matchesFeatures (balanceRule priority (asStr value)).matchFields
      (allowedView (features.mapValues asStr)) = true := by
    simp [matchesFeatures, balanceRule, Dict.items_ofList, get?_view known, there]
  have first := won.2 (balanceRule 1 "true") (by simp [rules]) (by decide)
  have second := won.2 (balanceRule 2 "false") (by simp [rules]) (by decide)
  obtain yes | no : asStr value = "true" ∨ asStr value = "false" := by simpa using inside
  · exact first (yes ▸ met 1)
  · exact second (no ▸ met 2)

end ClientEngagement.Rules
