import ClientEngagement.Agents.DraftParsers
import ClientEngagement.Lib.RegexScan

/-!
# Cleaned texts

What the five replacements of `strip_ai_dashes` come to, each by what its matches leave of a text. A text is
clean when it has no dash, no mark after space or a comma, no two blanks that meet, and no blank or comma at
its ends: what was cleaned is clean (`clean_stripAiDashes`), and what is clean stays as it is
(`stripAiDashes_of_clean`). A tidy part at the end of a text is still there when all is replaced but the ends
(`exists_sweep_append`).
-/

namespace ClientEngagement.Agents.Cleaning
open Rules (isSpace)

/-! ## The patterns -/

def compoundHyphen (tables : Unicode) : Regex Char := .seqs [.behind [tables.word], .lit ['-'], .ahead tables.word]

/-- The dashes that are no hyphens. -/
def longDash (c : Char) : Bool := c.toNat ∈ [0x2012, 0x2013, 0x2014, 0x2015]

def isDash (c : Char) : Bool := c = '-' || longDash c

def remainingDash : Regex Char := .seqs [spaces, .alt (.plus (.lit ['-'])) (.one longDash), spaces]

def duplicatePunctuation : Regex Char := .seqs [.lit [','], spaces, .ahead punctuation]

def spaceBeforePunctuation : Regex Char := .seq (.plus (.one isSpace)) (.ahead punctuation)

def blank (c : Char) : Bool := c = ' ' || c = '\t'

def repeatedSpace : Regex Char := .atLeast 2 (.one blank)

/-- What is taken off both ends. -/
def edge (c : Char) : Bool := c = ' ' || c = ','

/-- Everything but the ends. -/
def sweep (tables : Unicode) (text : List Char) : List Char :=
  Regex.sub repeatedSpace [' '] (Regex.sub spaceBeforePunctuation [] (Regex.sub duplicatePunctuation []
    (Regex.sub remainingDash [',', ' '] (Regex.sub (compoundHyphen tables) [' '] text))))

lemma stripAiDashes_eq (tables : Unicode) (text : List Char) :
    stripAiDashes tables text = stripOf edge (sweep tables text) := rfl

/-! ## What the characters are -/

lemma punctuation_of_isSpace {c : Char} (space : isSpace c = true) : punctuation c = false := by
  by_contra mark
  rw [Bool.not_eq_false, punctuation, decide_eq_true_eq] at mark
  simp only [List.mem_cons, List.not_mem_nil, or_false] at mark
  rcases mark with rfl | rfl | rfl | rfl | rfl | rfl <;> exact absurd space (by decide)

lemma isSpace_of_blank {c : Char} (is_blank : blank c = true) : isSpace c = true := by
  rw [blank, Bool.or_eq_true, decide_eq_true_eq, decide_eq_true_eq] at is_blank
  rcases is_blank with rfl | rfl
  · decide
  · decide

lemma isDash_of_isSpace {c : Char} (space : isSpace c = true) : isDash c = false := by
  by_contra dash
  rw [Bool.not_eq_false, isDash, Bool.or_eq_true, decide_eq_true_eq, longDash, decide_eq_true_eq] at dash
  simp only [List.mem_cons, List.not_mem_nil, or_false] at dash
  simp only [isSpace, decide_eq_true_eq, List.mem_cons, List.not_mem_nil, or_false, ← UInt32.toNat_inj] at space
  rcases dash with rfl | dash
  · revert space
    decide
  · rw [Char.toNat] at dash
    rcases dash with dash | dash | dash | dash <;> rw [dash] at space <;> revert space <;> decide

/-! ## What the matches leave -/

/-- One hyphen or more. -/
lemma rests_hyphens (c : Char) (rest : List Char) :
    ∃ others, Regex.rests (.plus (.lit ['-'])) (c :: rest) =
      if c = '-' then rest.dropWhile (· = '-') :: others else [] := by
  have single : Regex.ends (.lit ['-']) = Regex.ends (.one fun y => decide (y = '-')) := by
    funext d
    rw [Regex.lit, Regex.lit, Regex.ends]
    exact List.flatMap_singleton' _
  have one_hyphen : Regex.rests (.lit ['-']) (c :: rest) = if c = '-' then [rest] else [] := by
    rw [Regex.rests, single]
    exact (Regex.rests_one_cons _ c rest).trans (if_congr (by simp) rfl rfl)
  have more : Regex.rests (.star (.lit ['-'])) rest = Regex.rests (.star (.one fun y => decide (y = '-'))) rest := by
    rw [Regex.rests, Regex.rests, Regex.ends, Regex.ends, single]
  obtain ⟨others, eq⟩ := Regex.rests_star_one (fun y => decide (y = '-')) rest
  refine ⟨others, ?_⟩
  rw [Regex.plus, Regex.rests_seq _ rfl, one_hyphen]
  split_ifs with hyphen
  · rw [List.flatMap_cons, List.flatMap_nil, List.append_nil, more, eq]
  · rfl

/-- What a dash and the space around it leave. -/
def afterDash (text : List Char) : Option (List Char) :=
  match text.dropWhile isSpace with
  | [] => none
  | c :: rest =>
    if c = '-' then some ((rest.dropWhile (· = '-')).dropWhile isSpace)
    else if longDash c then some (rest.dropWhile isSpace)
    else none

lemma head_rests_remainingDash (text : List Char) : (Regex.rests remainingDash text).head? = afterDash text := by
  have tail (u : List Char) : ∃ others, Regex.rests (.seq spaces .empty) u = u.dropWhile isSpace :: others := by
    obtain ⟨others, eq⟩ := Regex.rests_star_one isSpace u
    rw [Regex.rests_seq _ rfl, spaces, eq]
    exact ⟨_, rfl⟩
  have middle (u : List Char) :
      (Regex.rests (.seq (.alt (.plus (.lit ['-'])) (.one longDash)) (.seq spaces .empty)) u).head? =
        match u with
        | [] => none
        | c :: rest =>
          if c = '-' then some ((rest.dropWhile (· = '-')).dropWhile isSpace)
          else if longDash c then some (rest.dropWhile isSpace)
          else none := by
    cases u with
    | nil => rfl
    | cons c rest =>
      obtain ⟨fewer, hyphens⟩ := rests_hyphens c rest
      rw [Regex.rests_seq _ rfl, Regex.rests_alt, Regex.rests_one_cons, hyphens]
      simp only
      split_ifs with hyphen long long
      · obtain ⟨others, eq⟩ := tail (rest.dropWhile (· = '-'))
        rw [List.cons_append, List.flatMap_cons, eq]
        rfl
      · obtain ⟨others, eq⟩ := tail (rest.dropWhile (· = '-'))
        rw [List.cons_append, List.flatMap_cons, eq]
        rfl
      · obtain ⟨others, eq⟩ := tail rest
        rw [List.nil_append, List.flatMap_cons, eq]
        rfl
      · rfl
  have stops (x : Char) (rest : List Char) (space : isSpace x = true) :
      Regex.rests (.seq (.alt (.plus (.lit ['-'])) (.one longDash)) (.seq spaces .empty)) (x :: rest) = [] := by
    have not_dash := isDash_of_isSpace space
    rw [isDash, Bool.or_eq_false_iff, decide_eq_false_iff_not] at not_dash
    rw [← List.head?_eq_none_iff, middle]
    simp only
    rw [if_neg not_dash.1, if_neg (by rw [not_dash.2]; decide)]
  rw [remainingDash, Regex.seqs, Regex.seqs, Regex.seqs, Regex.seqs, Regex.rests_seq _ rfl]
  have first := Regex.flatMap_rests_star_one stops text
  rw [spaces] at first ⊢
  rw [first]
  exact middle _

/-- What space before a mark leaves, where something comes before it. -/
def afterMark (leads : Char → Bool) : List Char → Option (List Char)
  | [] => none
  | x :: rest =>
    if leads x && (rest.dropWhile isSpace).head?.any punctuation then some (rest.dropWhile isSpace) else none

lemma head_rests_spaces_mark (text : List Char) :
    (Regex.rests (.seq spaces (.ahead punctuation)) text).head? =
      if (text.dropWhile isSpace).head?.any punctuation then some (text.dropWhile isSpace) else none :=
  Regex.head_rests_star_ahead (fun _ => punctuation_of_isSpace) text

lemma head_rests_duplicatePunctuation (text : List Char) :
    (Regex.rests duplicatePunctuation text).head? = afterMark (· = ',') text := by
  have closed (u : List Char) : Regex.rests (.seq spaces (.seq (.ahead punctuation) .empty)) u =
      Regex.rests (.seq spaces (.ahead punctuation)) u := by
    have alike (v : List Char) : Regex.rests (.seq (.ahead punctuation) .empty) v = Regex.rests (.ahead punctuation) v := by
      rw [Regex.rests_seq _ rfl]
      exact List.flatMap_singleton' _
    rw [Regex.rests_seq _ rfl, Regex.rests_seq _ rfl]
    exact List.flatMap_congr fun v _ => alike v
  cases text with
  | nil => rfl
  | cons x rest =>
    have comma : Regex.rests (.lit [',']) (x :: rest) = if x = ',' then [rest] else [] := by
      split_ifs with same
      · subst same
        exact Regex.rests_lit_append [','] rest
      · exact Regex.rests_lit_elsewhere fun within => same (List.cons_prefix_cons.mp within).1.symm
    rw [duplicatePunctuation, Regex.seqs, Regex.seqs, Regex.seqs, Regex.seqs, Regex.rests_seq _ rfl, comma]
    split_ifs with same
    · rw [List.flatMap_cons, List.flatMap_nil, List.append_nil, closed, head_rests_spaces_mark, afterMark]
      simp [same]
    · simp [afterMark, same]

lemma head_rests_spaceBeforePunctuation (text : List Char) :
    (Regex.rests spaceBeforePunctuation text).head? = afterMark isSpace text := by
  cases text with
  | nil => rfl
  | cons x rest =>
    rw [spaceBeforePunctuation, Regex.rests_seq _ rfl, Regex.plus, Regex.rests_seq _ rfl, Regex.rests_one_cons]
    split_ifs with space
    · have both := head_rests_spaces_mark rest
      rw [Regex.rests_seq _ rfl] at both
      rw [List.flatMap_cons, List.flatMap_nil, List.append_nil, afterMark, space, Bool.true_and]
      exact both
    · simp [afterMark, space]

/-- What two blanks and more leave. -/
def afterBlanks : List Char → Option (List Char)
  | x :: y :: rest => if blank x && blank y then some (rest.dropWhile blank) else none
  | _ => none

lemma head_rests_repeatedSpace (text : List Char) :
    (Regex.rests repeatedSpace text).head? = afterBlanks text := by
  rw [repeatedSpace, Regex.atLeast, Regex.rests_seq _ rfl, Regex.times, Regex.times, Regex.times,
    Regex.rests_seq _ rfl]
  rcases text with _ | ⟨x, _ | ⟨y, rest⟩⟩
  · rfl
  · rw [Regex.rests_one_cons]
    split_ifs
    · rfl
    · rfl
  · rw [Regex.rests_one_cons, afterBlanks]
    cases first : blank x with
    | false => rfl
    | true =>
      have next : Regex.rests (.seq (.one blank) .empty) (y :: rest) = if blank y then [rest] else [] := by
        rw [Regex.rests_seq _ rfl, Regex.rests_one_cons]
        split_ifs
        · rfl
        · rfl
      rw [if_pos rfl, List.flatMap_cons, List.flatMap_nil, List.append_nil, next]
      cases second : blank y with
      | false => rfl
      | true =>
        rw [if_pos rfl, List.flatMap_cons, List.flatMap_nil, List.append_nil, Regex.head_rests_star_one]
        rfl

/-! ## One replacement -/

/-- A hyphen inside a word takes one character. -/
lemma ends_compoundHyphen {tables : Unicode} {before rest : List Char} {x : Char} {d : Cursor Char}
    (here : d ∈ Regex.ends (compoundHyphen tables) ⟨before, x :: rest⟩) : x = '-' ∧ d.after = rest := by
  simp only [compoundHyphen, Regex.seqs, Regex.lit, Regex.ends, List.mem_flatMap, List.mem_singleton] at here
  obtain ⟨behind, is_behind, hyphen, ⟨one, is_one, rfl⟩, ahead, is_ahead, rfl⟩ := here
  split_ifs at is_behind
  · rw [List.mem_singleton.mp is_behind] at is_one
    simp only at is_one
    split_ifs at is_one with same
    · rw [List.mem_singleton.mp is_one] at is_ahead
      split_ifs at is_ahead
      · rw [List.mem_singleton.mp is_ahead]
        exact ⟨of_decide_eq_true same, rfl⟩
      · cases is_ahead
    · cases is_one
  · cases is_behind

/-- Hyphens become blanks, and all else stays. -/
lemma sub_compoundHyphen (tables : Unicode) (text : List Char) :
    List.Forall₂ (fun x y => y = x ∨ x = '-' ∧ y = ' ') text (Regex.sub (compoundHyphen tables) [' '] text) := by
  have same (t : List Char) : List.Forall₂ (fun x y => y = x ∨ x = '-' ∧ y = ' ') t t :=
    List.forall₂_same.mpr fun _ _ => .inl rfl
  have step (n : ℕ) (c : Cursor Char) : List.Forall₂ (fun x y => y = x ∨ x = '-' ∧ y = ' ') c.after
      (Regex.replaced [' '] (Regex.piecesFrom (compoundHyphen tables) n c)) := by
    induction n generalizing c with
    | zero =>
      rw [Regex.piecesFrom, Regex.replaced_map_kept]
      exact same _
    | succ n ih =>
      obtain ⟨before, after⟩ := c
      cases after with
      | nil => exact .nil
      | cons x rest =>
        rw [Regex.piecesFrom]
        simp only
        cases first : (Regex.ends (compoundHyphen tables) ⟨before, x :: rest⟩).head? with
        | none => exact .cons (.inl rfl) (ih ⟨x :: before, rest⟩)
        | some d =>
          obtain ⟨rfl, left⟩ := ends_compoundHyphen (List.mem_of_head? first)
          have next := ih d
          rw [left] at next
          simp only [left, List.length_cons, Nat.lt_succ_self, if_true]
          exact .cons (.inr ⟨rfl, rfl⟩) next
  exact step text.length ⟨[], text⟩

lemma eq_of_no_hyphen {text swept : List Char} (no_hyphen : '-' ∉ text)
    (pointwise : List.Forall₂ (fun x y => y = x ∨ x = '-' ∧ y = ' ') text swept) : swept = text := by
  induction pointwise with
  | nil => rfl
  | cons change _ ih =>
    rw [List.mem_cons, not_or] at no_hyphen
    rcases change with rfl | ⟨rfl, _⟩
    · rw [ih no_hyphen.2]
    · exact absurd rfl no_hyphen.1

lemma sub_compoundHyphen_eq_self (tables : Unicode) {text : List Char} (no_hyphen : '-' ∉ text) :
    Regex.sub (compoundHyphen tables) [' '] text = text :=
  eq_of_no_hyphen no_hyphen (sub_compoundHyphen tables text)

/-- A part at the end without hyphens stays. -/
lemma exists_compoundHyphen_append (tables : Unicode) {part : List Char} (no_hyphen : '-' ∉ part) (front : List Char) :
    ∃ swept, Regex.sub (compoundHyphen tables) [' '] (front ++ part) = swept ++ part := by
  have pointwise := sub_compoundHyphen tables (front ++ part)
  generalize Regex.sub (compoundHyphen tables) [' '] (front ++ part) = swept at pointwise
  induction front generalizing swept with
  | nil => exact ⟨[], eq_of_no_hyphen no_hyphen pointwise⟩
  | cons x front ih =>
    cases pointwise with
    | cons _ later =>
      obtain ⟨more, rfl⟩ := ih _ later
      exact ⟨_ :: more, rfl⟩

lemma consumes_remainingDash : Regex.Consumes remainingDash := by
  intro text left first
  rw [head_rests_remainingDash, afterDash] at first
  have shorter := (List.dropWhile_suffix (l := text) isSpace).length_le
  cases drop : text.dropWhile isSpace with
  | nil =>
    rw [drop] at first
    cases first
  | cons c rest =>
    rw [drop, List.length_cons] at shorter
    rw [drop] at first
    simp only at first
    split_ifs at first
    · obtain rfl := Option.some_inj.mp first
      have hyphens := (List.dropWhile_suffix (l := rest) (· = '-')).length_le
      have space := (List.dropWhile_suffix (l := rest.dropWhile (· = '-')) isSpace).length_le
      omega
    · obtain rfl := Option.some_inj.mp first
      have space := (List.dropWhile_suffix (l := rest) isSpace).length_le
      omega

lemma afterMark_some {leads : Char → Bool} {text left : List Char} (first : afterMark leads text = some left) :
    ∃ x rest, text = x :: rest ∧ leads x = true ∧ left = rest.dropWhile isSpace ∧ left.head?.any punctuation := by
  cases text with
  | nil => cases first
  | cons x rest =>
    rw [afterMark] at first
    split_ifs at first with both
    obtain rfl := Option.some_inj.mp first
    rw [Bool.and_eq_true] at both
    exact ⟨x, rest, rfl, both.1, rfl, both.2⟩

lemma length_afterMark {leads : Char → Bool} {text left : List Char} (first : afterMark leads text = some left) :
    left.length < text.length := by
  obtain ⟨x, rest, rfl, _, rfl, _⟩ := afterMark_some first
  have space := (List.dropWhile_suffix (l := rest) isSpace).length_le
  rw [List.length_cons]
  omega

lemma consumes_duplicatePunctuation : Regex.Consumes duplicatePunctuation := by
  intro text left first
  rw [head_rests_duplicatePunctuation] at first
  exact length_afterMark first

lemma consumes_spaceBeforePunctuation : Regex.Consumes spaceBeforePunctuation := by
  intro text left first
  rw [head_rests_spaceBeforePunctuation] at first
  exact length_afterMark first

lemma afterBlanks_some {text left : List Char} (first : afterBlanks text = some left) :
    ∃ x y rest, text = x :: y :: rest ∧ blank x = true ∧ blank y = true ∧ left = rest.dropWhile blank := by
  rcases text with _ | ⟨x, _ | ⟨y, rest⟩⟩
  · cases first
  · cases first
  · rw [afterBlanks] at first
    split_ifs at first with both
    rw [Bool.and_eq_true] at both
    exact ⟨x, y, rest, rfl, both.1, both.2, (Option.some_inj.mp first).symm⟩

lemma consumes_repeatedSpace : Regex.Consumes repeatedSpace := by
  intro text left first
  rw [head_rests_repeatedSpace] at first
  obtain ⟨x, y, rest, rfl, _, _, rfl⟩ := afterBlanks_some first
  have blanks := (List.dropWhile_suffix (l := rest) blank).length_le
  rw [List.length_cons, List.length_cons]
  omega

/-! ## What a cleaned text is -/

/-- No mark follows space or a comma, and no two blanks meet. -/
def Smooth (x y : Char) : Prop :=
  ¬((isSpace x = true ∨ x = ',') ∧ punctuation y = true) ∧ ¬(blank x = true ∧ blank y = true)

/-- No dashes, and smooth throughout. -/
structure Tidy (text : List Char) : Prop where
  dashless : ∀ c ∈ text, isDash c = false
  smooth : text.IsChain Smooth

/-- Tidy, and nothing to take off the ends. -/
structure Clean (text : List Char) : Prop extends Tidy text where
  first : ∀ c ∈ text.head?, edge c = false
  last : ∀ c ∈ text.getLast?, edge c = false

/-- No comma before a mark, with space between them or not. -/
def Unrepeated : List Char → Prop
  | [] => True
  | x :: rest => (x = ',' → (rest.dropWhile isSpace).head?.any punctuation = false) ∧ Unrepeated rest

/-- No mark follows space or a comma. -/
def Joined (x y : Char) : Prop := ¬((isSpace x = true ∨ x = ',') ∧ punctuation y = true)

lemma Tidy.part {text part : List Char} (tidy : Tidy text) (within : part <:+: text) : Tidy part where
  dashless c mem := tidy.dashless c (within.subset mem)
  smooth := tidy.smooth.infix within

lemma Unrepeated.suffix {text part : List Char} (unrepeated : Unrepeated text) (within : part <:+ text) :
    Unrepeated part := by
  obtain ⟨front, rfl⟩ := within
  induction front with
  | nil => exact unrepeated
  | cons x front ih => exact ih unrepeated.2

/-- After space or a comma the next character that is no space is no mark. -/
lemma unmarked_of_joined {x : Char} {rest : List Char} (leads : isSpace x = true ∨ x = ',')
    (joined : (x :: rest).IsChain Joined) : (rest.dropWhile isSpace).head?.any punctuation = false := by
  induction rest generalizing x with
  | nil => rfl
  | cons y rest ih =>
    obtain ⟨next, later⟩ := List.isChain_cons_cons.mp joined
    rw [List.dropWhile_cons]
    split_ifs with space
    · exact ih (.inl space) later
    · rw [List.head?_cons, Option.any_some]
      exact Bool.eq_false_iff.mpr fun mark => next ⟨leads, mark⟩

lemma unrepeated_of_joined {text : List Char} (joined : text.IsChain Joined) : Unrepeated text := by
  induction text with
  | nil => trivial
  | cons x rest ih => exact ⟨fun comma => unmarked_of_joined (.inr comma) joined, ih joined.tail⟩

lemma Tidy.joined {text : List Char} (tidy : Tidy text) : text.IsChain Joined := tidy.smooth.imp fun _ _ smooth => smooth.1

/-! ## Dashes go -/

lemma dashless_remainingDash (text : List Char) : ∀ c ∈ Regex.sub remainingDash [',', ' '] text, isDash c = false := by
  induction text using Regex.scan_induction consumes_remainingDash with
  | nil => exact nofun
  | found text left first ih =>
    rw [Regex.sub_of_first rfl first (consumes_remainingDash first)]
    intro c mem
    rcases List.mem_append.mp mem with new | old
    · rcases List.mem_pair.mp new with rfl | rfl
      · decide
      · decide
    · exact ih c old
  | kept x rest unmatched ih =>
    rw [Regex.sub_of_unmatched rfl unmatched]
    intro c mem
    rcases List.mem_cons.mp mem with rfl | old
    · by_contra dash
      rw [Bool.not_eq_false] at dash
      have ink : ¬isSpace c = true := fun space => by
        rw [isDash_of_isSpace space] at dash
        cases dash
      rw [head_rests_remainingDash, afterDash, List.dropWhile_cons_of_neg ink] at unmatched
      simp only at unmatched
      rw [isDash, Bool.or_eq_true, decide_eq_true_eq] at dash
      split_ifs at unmatched with hyphen long
      exact dash.elim hyphen long
    · exact ih c old

/-- No match begins in a text without dashes. -/
lemma afterDash_eq_none {text : List Char} (dashless : ∀ c ∈ text, isDash c = false) : afterDash text = none := by
  rw [afterDash]
  cases drop : text.dropWhile isSpace with
  | nil => rfl
  | cons c rest =>
    have mem : c ∈ text := (List.dropWhile_suffix isSpace).subset (drop ▸ List.mem_cons_self)
    have not_dash := dashless c mem
    rw [isDash, Bool.or_eq_false_iff, decide_eq_false_iff_not] at not_dash
    simp only
    rw [if_neg not_dash.1, if_neg (by rw [not_dash.2]; decide)]

lemma remainingDash_eq_self {repl text : List Char} (dashless : ∀ c ∈ text, isDash c = false) :
    Regex.sub remainingDash repl text = text := by
  apply Regex.sub_eq_self rfl
  intro x rest within
  rw [head_rests_remainingDash]
  exact afterDash_eq_none fun c mem => dashless c (within.subset mem)

/-! ## Commas before marks go -/

lemma afterMark_eq_none_iff {leads : Char → Bool} {x : Char} {rest : List Char} :
    afterMark leads (x :: rest) = none ↔
      (leads x = true → (rest.dropWhile isSpace).head?.any punctuation = false) := by
  rw [afterMark, ite_eq_right_iff, Bool.and_eq_true, and_imp]
  constructor
  · intro none_ leading
    exact Bool.eq_false_iff.mpr fun mark => by cases none_ leading mark
  · intro unmarked leading mark
    rw [unmarked leading] at mark
    cases mark

/-- Where no mark comes first, none does afterwards. -/
lemma unmarked_duplicatePunctuation (text : List Char)
    (unmarked : (text.dropWhile isSpace).head?.any punctuation = false) :
    ((Regex.sub duplicatePunctuation [] text).dropWhile isSpace).head?.any punctuation = false := by
  induction text with
  | nil => rfl
  | cons x rest ih =>
    have no_comma : x ≠ ',' := by
      rintro rfl
      rw [List.dropWhile_cons_of_neg (by decide)] at unmarked
      cases unmarked
    have unmatched : (Regex.rests duplicatePunctuation (x :: rest)).head? = none := by
      rw [head_rests_duplicatePunctuation, afterMark_eq_none_iff]
      intro comma
      exact absurd (of_decide_eq_true comma) no_comma
    rw [Regex.sub_of_unmatched rfl unmatched, List.dropWhile_cons]
    rw [List.dropWhile_cons] at unmarked
    split_ifs at unmarked ⊢ with space
    · exact ih unmarked
    · exact unmarked

lemma unrepeated_duplicatePunctuation (text : List Char) : Unrepeated (Regex.sub duplicatePunctuation [] text) := by
  induction text using Regex.scan_induction consumes_duplicatePunctuation with
  | nil => trivial
  | found text left first ih =>
    rw [Regex.sub_of_first rfl first (consumes_duplicatePunctuation first)]
    exact ih
  | kept x rest unmatched ih =>
    rw [Regex.sub_of_unmatched rfl unmatched]
    rw [head_rests_duplicatePunctuation, afterMark_eq_none_iff] at unmatched
    exact ⟨fun comma => unmarked_duplicatePunctuation rest (unmatched (decide_eq_true comma)), ih⟩

lemma duplicatePunctuation_eq_self {text : List Char} (unrepeated : Unrepeated text) :
    Regex.sub duplicatePunctuation [] text = text := by
  apply Regex.sub_eq_self rfl
  intro x rest within
  rw [head_rests_duplicatePunctuation, afterMark_eq_none_iff]
  intro comma
  exact (unrepeated.suffix within).1 (of_decide_eq_true comma)

/-! ## Space before marks goes -/

lemma unmarked_spaceBeforePunctuation (text : List Char)
    (unmarked : (text.dropWhile isSpace).head?.any punctuation = false) :
    ∀ y ∈ (Regex.sub spaceBeforePunctuation [] text).head?, punctuation y = false := by
  cases text with
  | nil => exact nofun
  | cons x rest =>
    have unmatched : (Regex.rests spaceBeforePunctuation (x :: rest)).head? = none := by
      rw [head_rests_spaceBeforePunctuation, afterMark_eq_none_iff]
      intro space
      rw [List.dropWhile_cons_of_pos space] at unmarked
      exact unmarked
    rw [Regex.sub_of_unmatched rfl unmatched]
    intro y mem
    obtain rfl := Option.some_inj.mp mem
    by_cases space : isSpace x = true
    · exact punctuation_of_isSpace space
    · rw [List.dropWhile_cons_of_neg space] at unmarked
      exact unmarked

lemma joined_spaceBeforePunctuation (text : List Char) (unrepeated : Unrepeated text) :
    (Regex.sub spaceBeforePunctuation [] text).IsChain Joined := by
  induction text using Regex.scan_induction consumes_spaceBeforePunctuation with
  | nil => exact .nil
  | found text left first ih =>
    rw [Regex.sub_of_first rfl first (consumes_spaceBeforePunctuation first)]
    exact ih (unrepeated.suffix (Regex.suffix_of_head_rests first))
  | kept x rest unmatched ih =>
    rw [Regex.sub_of_unmatched rfl unmatched]
    rw [head_rests_spaceBeforePunctuation, afterMark_eq_none_iff] at unmatched
    refine (ih unrepeated.2).cons fun y mem => ?_
    rintro ⟨leads, mark⟩
    have unmarked : (rest.dropWhile isSpace).head?.any punctuation = false := leads.elim unmatched unrepeated.1
    rw [unmarked_spaceBeforePunctuation rest unmarked y mem] at mark
    cases mark

lemma spaceBeforePunctuation_eq_self {text : List Char} (joined : text.IsChain Joined) :
    Regex.sub spaceBeforePunctuation [] text = text := by
  apply Regex.sub_eq_self rfl
  intro x rest within
  rw [head_rests_spaceBeforePunctuation, afterMark_eq_none_iff]
  intro space
  exact unmarked_of_joined (.inl space) (joined.suffix within)

/-! ## Blanks that meet go -/

lemma afterBlanks_eq_none {text : List Char} (smooth : text.IsChain Smooth) : afterBlanks text = none := by
  rcases text with _ | ⟨x, _ | ⟨y, rest⟩⟩
  · rfl
  · rfl
  · have next := (List.isChain_cons_cons.mp smooth).1.2
    rw [afterBlanks, if_neg (by rw [Bool.and_eq_true]; exact next)]

lemma repeatedSpace_eq_self {text : List Char} (smooth : text.IsChain Smooth) :
    Regex.sub repeatedSpace [' '] text = text := by
  apply Regex.sub_eq_self rfl
  intro x rest within
  rw [head_rests_repeatedSpace]
  exact afterBlanks_eq_none (smooth.suffix within)

lemma punctuation_of_blank {c : Char} (is_blank : blank c = true) : punctuation c = false :=
  punctuation_of_isSpace (isSpace_of_blank is_blank)

/-- What comes first is what came first, or a blank for a blank. -/
lemma head_repeatedSpace (text : List Char) : ∀ y ∈ (Regex.sub repeatedSpace [' '] text).head?,
    y ∈ text.head? ∨ y = ' ' ∧ ∃ x ∈ text.head?, blank x = true := by
  intro y mem
  cases first : (Regex.rests repeatedSpace text).head? with
  | some left =>
    rw [Regex.sub_of_first rfl first (consumes_repeatedSpace first)] at mem
    obtain rfl := Option.some_inj.mp mem
    rw [head_rests_repeatedSpace] at first
    obtain ⟨x, _, rest, rfl, is_blank, _⟩ := afterBlanks_some first
    exact .inr ⟨rfl, x, rfl, is_blank⟩
  | none =>
    cases text with
    | nil => cases mem
    | cons x rest =>
      rw [Regex.sub_of_unmatched rfl first] at mem
      exact .inl mem

/-- After a blank the next character that is none is no mark. -/
lemma unmarked_after_blank {y : Char} {rest : List Char} (is_blank : blank y = true)
    (joined : (y :: rest).IsChain Joined) : ∀ z ∈ (rest.dropWhile blank).head?, punctuation z = false := by
  induction rest generalizing y with
  | nil => exact nofun
  | cons z rest ih =>
    obtain ⟨next, later⟩ := List.isChain_cons_cons.mp joined
    rw [List.dropWhile_cons]
    split_ifs with more
    · exact ih more later
    · intro w mem
      obtain rfl := Option.some_inj.mp mem
      exact Bool.eq_false_iff.mpr fun mark => next ⟨.inl (isSpace_of_blank is_blank), mark⟩

/-- A match begins where two blanks do. -/
lemma afterBlanks_eq_none_iff {x : Char} {rest : List Char} :
    afterBlanks (x :: rest) = none ↔ ∀ y ∈ rest.head?, ¬(blank x = true ∧ blank y = true) := by
  cases rest with
  | nil => exact ⟨fun _ => nofun, fun _ => rfl⟩
  | cons y rest =>
    rw [afterBlanks, ite_eq_right_iff, Bool.and_eq_true]
    constructor
    · intro none_ z mem both
      obtain rfl := Option.some_inj.mp mem
      cases none_ both
    · intro apart both
      exact absurd both (apart y rfl)

lemma smooth_repeatedSpace (text : List Char) (joined : text.IsChain Joined) :
    (Regex.sub repeatedSpace [' '] text).IsChain Smooth := by
  induction text using Regex.scan_induction consumes_repeatedSpace with
  | nil => exact .nil
  | found text left first ih =>
    rw [Regex.sub_of_first rfl first (consumes_repeatedSpace first)]
    have within := Regex.suffix_of_head_rests first
    rw [head_rests_repeatedSpace] at first
    obtain ⟨x, y, rest, rfl, _, blank_y, rfl⟩ := afterBlanks_some first
    have unmarked := unmarked_after_blank blank_y joined.tail
    have other : ∀ z ∈ (rest.dropWhile blank).head?, blank z = false := by
      intro z mem
      have stops := List.head?_dropWhile_not blank rest
      rw [Option.mem_def.mp mem] at stops
      exact stops
    refine (ih (joined.suffix within)).cons fun z mem => ?_
    rcases head_repeatedSpace _ z mem with old | ⟨_, w, head, blank_w⟩
    · refine ⟨fun ⟨_, mark⟩ => ?_, fun ⟨_, blank_z⟩ => ?_⟩
      · rw [unmarked z old] at mark
        cases mark
      · rw [other z old] at blank_z
        cases blank_z
    · rw [other w head] at blank_w
      cases blank_w
  | kept x rest unmatched ih =>
    rw [Regex.sub_of_unmatched rfl unmatched]
    rw [head_rests_repeatedSpace, afterBlanks_eq_none_iff] at unmatched
    refine (ih joined.tail).cons fun y mem => ?_
    rcases head_repeatedSpace _ y mem with old | ⟨rfl, w, head, blank_w⟩
    · exact ⟨joined.rel_head? old, unmatched y old⟩
    · exact ⟨fun ⟨_, mark⟩ => absurd mark (by decide), fun ⟨blank_x, _⟩ => unmatched w head ⟨blank_x, blank_w⟩⟩

/-! ## Cleaning -/

lemma tidy_sweep (tables : Unicode) (text : List Char) : Tidy (sweep tables text) where
  dashless := by
    intro c mem
    rcases Regex.mem_sub mem with new | mem
    · rw [List.mem_singleton.mp new]
      decide
    rcases Regex.mem_sub mem with new | mem
    · cases new
    rcases Regex.mem_sub mem with new | mem
    · cases new
    exact dashless_remainingDash _ c mem
  smooth := smooth_repeatedSpace _ (joined_spaceBeforePunctuation _ (unrepeated_duplicatePunctuation _))

lemma sweep_of_tidy (tables : Unicode) {text : List Char} (tidy : Tidy text) : sweep tables text = text := by
  have no_hyphen : '-' ∉ text := fun mem => absurd (tidy.dashless '-' mem) (by decide)
  rw [sweep, sub_compoundHyphen_eq_self tables no_hyphen, remainingDash_eq_self tidy.dashless,
    duplicatePunctuation_eq_self (unrepeated_of_joined tidy.joined), spaceBeforePunctuation_eq_self tidy.joined,
    repeatedSpace_eq_self tidy.smooth]

/-- What is cleaned is clean. -/
theorem clean_stripAiDashes (tables : Unicode) (text : List Char) : Clean (stripAiDashes tables text) where
  toTidy := (tidy_sweep tables text).part (stripOf_within edge _)
  first := (ends_stripOf edge _).1
  last := (ends_stripOf edge _).2

/-- What is clean stays as it is. -/
theorem stripAiDashes_of_clean (tables : Unicode) {text : List Char} (clean : Clean text) :
    stripAiDashes tables text = text := by
  rw [stripAiDashes_eq, sweep_of_tidy tables clean.toTidy, stripOf_eq_self clean.first clean.last]

/-! ## A part at the end -/

/-- What is left of a text before a mark has the part at its end. -/
lemma suffix_of_afterMark {part : List Char} (first : ∀ c ∈ part.head?, isSpace c = false) {leads : Char → Bool}
    {x : Char} {front left : List Char}
    (found : afterMark leads (x :: (front ++ part)) = some left) : part <:+ left := by
  obtain ⟨_, rest, same, _, rfl, _⟩ := afterMark_some found
  obtain ⟨_, rfl⟩ := List.cons.inj same
  exact Regex.suffix_dropWhile (List.suffix_append front part) first

section Part

variable {part : List Char} (tidy : Tidy part) (first : ∀ c ∈ part.head?, isSpace c = false)
include tidy

lemma no_hyphen_of_tidy : '-' ∉ part := fun mem => absurd (tidy.dashless '-' mem) (by decide)

include first

lemma exists_remainingDash_append (front : List Char) :
    ∃ swept, Regex.sub remainingDash [',', ' '] (front ++ part) = swept ++ part := by
  refine Regex.exists_sub_append rfl consumes_remainingDash (remainingDash_eq_self tidy.dashless) ?_ front
  intro x front left found
  rw [head_rests_remainingDash, afterDash] at found
  have within : part <:+ (x :: (front ++ part)).dropWhile isSpace :=
    Regex.suffix_dropWhile ((List.suffix_append front part).trans (List.suffix_cons x _)) first
  have no_hyphen : ∀ c ∈ part.head?, decide (c = '-') = false := by
    intro c head
    rw [decide_eq_false_iff_not]
    rintro rfl
    exact no_hyphen_of_tidy tidy (List.mem_of_head? head)
  cases drop : (x :: (front ++ part)).dropWhile isSpace with
  | nil =>
    rw [drop] at found
    cases found
  | cons c rest =>
    rw [drop] at found within
    simp only at found
    have later (dash : isDash c = true) : part <:+ rest := by
      rcases List.suffix_cons_iff.mp within with rfl | later
      · rw [tidy.dashless c List.mem_cons_self] at dash
        cases dash
      · exact later
    split_ifs at found with hyphen long
    · obtain rfl := Option.some_inj.mp found
      have dash : isDash c = true := by
        rw [hyphen]
        decide
      exact Regex.suffix_dropWhile (Regex.suffix_dropWhile (later dash) no_hyphen) first
    · obtain rfl := Option.some_inj.mp found
      have dash : isDash c = true := by rw [isDash, long, Bool.or_true]
      exact Regex.suffix_dropWhile (later dash) first

lemma exists_duplicatePunctuation_append (front : List Char) :
    ∃ swept, Regex.sub duplicatePunctuation [] (front ++ part) = swept ++ part := by
  refine Regex.exists_sub_append rfl consumes_duplicatePunctuation
    (duplicatePunctuation_eq_self (unrepeated_of_joined tidy.joined)) ?_ front
  intro x front left found
  rw [head_rests_duplicatePunctuation] at found
  exact suffix_of_afterMark first found

lemma exists_spaceBeforePunctuation_append (front : List Char) :
    ∃ swept, Regex.sub spaceBeforePunctuation [] (front ++ part) = swept ++ part := by
  refine Regex.exists_sub_append rfl consumes_spaceBeforePunctuation (spaceBeforePunctuation_eq_self tidy.joined) ?_
    front
  intro x front left found
  rw [head_rests_spaceBeforePunctuation] at found
  exact suffix_of_afterMark first found

lemma exists_repeatedSpace_append (front : List Char) :
    ∃ swept, Regex.sub repeatedSpace [' '] (front ++ part) = swept ++ part := by
  refine Regex.exists_sub_append rfl consumes_repeatedSpace (repeatedSpace_eq_self tidy.smooth) ?_ front
  intro x front left found
  rw [head_rests_repeatedSpace] at found
  obtain ⟨_, y, rest, same, _, blank_y, rfl⟩ := afterBlanks_some found
  obtain ⟨_, same⟩ := List.cons.inj same
  have within : part <:+ y :: rest := same ▸ List.suffix_append front part
  have not_blank : ∀ c ∈ part.head?, blank c = false := fun c head =>
    Bool.eq_false_iff.mpr fun is_blank => absurd (isSpace_of_blank is_blank) (by rw [first c head]; decide)
  rcases List.suffix_cons_iff.mp within with rfl | later
  · rw [not_blank y rfl] at blank_y
    cases blank_y
  · exact Regex.suffix_dropWhile later not_blank

/-- A tidy part at the end that does not begin with space is swept to the end. -/
theorem exists_sweep_append (tables : Unicode) (front : List Char) :
    ∃ swept, sweep tables (front ++ part) = swept ++ part := by
  obtain ⟨one, compound⟩ := exists_compoundHyphen_append tables (no_hyphen_of_tidy tidy) front
  obtain ⟨two, dashes⟩ := exists_remainingDash_append tidy first one
  obtain ⟨three, commas⟩ := exists_duplicatePunctuation_append tidy first two
  obtain ⟨four, space⟩ := exists_spaceBeforePunctuation_append tidy first three
  rw [sweep, compound, dashes, commas, space]
  exact exists_repeatedSpace_append tidy first four

end Part

end ClientEngagement.Agents.Cleaning
