import ClientEngagement.Lib.Regex

/-!
# Scanning with expressions that look at nothing before them

An expression without assertions about what lies before (`blind`) finds the same wherever a text stands:
`rests` lists what its matches at the beginning of a text leave, the preferred match first. The pieces of a
text are then told from left to right (`pieces_append`, `pieces_cons`), and so is a replacement (`sub_of_first`,
`sub_of_unmatched`), of a literal text too (`sub_lit_append`, `sub_lit_cons`). What no match touches stays
(`sub_eq_self`), also at the end of a longer text (`exists_sub_append`).
-/

namespace ClientEngagement.Regex

variable {α : Type*}

/-- The expression asks nothing about what lies before it. -/
def blind : Regex α → Bool
  | .empty | .one _ | .ahead _ | .stop _ => true
  | .seq r s | .alt r s => blind r && blind s
  | .star r => blind r
  | .behind _ | .boundary _ | .start => false

/-- What the matches at the beginning of a text leave of it, the preferred match first. -/
def rests (r : Regex α) (text : List α) : List (List α) := (ends r ⟨[], text⟩).map Cursor.after

/-! ## What lies before does not matter -/

lemma map_after_flatMap {f : Cursor α → List (Cursor α)} {l l' : List (Cursor α)}
    (same : l.map Cursor.after = l'.map Cursor.after)
    (alike : ∀ c c', c.after = c'.after → (f c).map Cursor.after = (f c').map Cursor.after) :
    (l.flatMap f).map Cursor.after = (l'.flatMap f).map Cursor.after := by
  induction l generalizing l' with
  | nil =>
    cases l' with
    | nil => rfl
    | cons c' l' => cases same
  | cons c l ih =>
    cases l' with
    | nil => cases same
    | cons c' l' =>
      obtain ⟨head, tail⟩ := List.cons.inj same
      rw [List.flatMap_cons, List.flatMap_cons, List.map_append, List.map_append, alike c c' head, ih tail]

lemma map_after_filter (n : ℕ) {l l' : List (Cursor α)} (same : l.map Cursor.after = l'.map Cursor.after) :
    (l.filter fun d => d.after.length < n).map Cursor.after =
      (l'.filter fun d => d.after.length < n).map Cursor.after := by
  have shorter (k : List (Cursor α)) : (k.filter fun d => d.after.length < n).map Cursor.after =
      (k.map Cursor.after).filter fun t => t.length < n := by
    rw [List.filter_map]
    rfl
  rw [shorter, shorter, same]

lemma map_after_iterate {step : Cursor α → List (Cursor α)}
    (alike : ∀ c c', c.after = c'.after → (step c).map Cursor.after = (step c').map Cursor.after) (n : ℕ)
    (c c' : Cursor α) (same : c.after = c'.after) :
    (iterate step n c).map Cursor.after = (iterate step n c').map Cursor.after := by
  induction n generalizing c c' with
  | zero => simp only [iterate, List.map_cons, List.map_nil, same]
  | succ n ih =>
    rw [iterate, iterate, List.map_append, List.map_append, ← same]
    congr 1
    · exact map_after_flatMap (map_after_filter _ (alike c c' same)) ih
    · simp only [List.map_cons, List.map_nil, same]

lemma map_after_ends {r : Regex α} (unseeing : blind r = true) (c c' : Cursor α) (same : c.after = c'.after) :
    (ends r c).map Cursor.after = (ends r c').map Cursor.after := by
  induction r generalizing c c' with
  | empty => simp only [ends, List.map_cons, List.map_nil, same]
  | one p =>
    rw [ends, ends, ← same]
    cases c.after with
    | nil => rfl
    | cons x after =>
      simp only
      split_ifs <;> rfl
  | seq r s ihr ihs =>
    rw [blind, Bool.and_eq_true] at unseeing
    exact map_after_flatMap (ihr unseeing.1 c c' same) (ihs unseeing.2)
  | alt r s ihr ihs =>
    rw [blind, Bool.and_eq_true] at unseeing
    rw [ends, ends, List.map_append, List.map_append, ihr unseeing.1 c c' same, ihs unseeing.2 c c' same]
  | star r ih =>
    rw [ends, ends, ← same]
    exact map_after_iterate (ih unseeing) _ c c' same
  | ahead p =>
    rw [ends, ends, ← same]
    split_ifs <;> simp only [List.map_cons, List.map_nil, same]
  | stop p =>
    rw [ends, ends, ← same]
    split
    · simp only [List.map_cons, List.map_nil, same]
    · split_ifs <;> simp only [List.map_cons, List.map_nil, same]
    · rfl
  | behind ps => cases unseeing
  | boundary p => cases unseeing
  | start => cases unseeing

/-- A match leaves the same wherever the text stands. -/
lemma map_after_eq_rests {r : Regex α} (unseeing : blind r = true) (c : Cursor α) :
    (ends r c).map Cursor.after = rests r c.after :=
  map_after_ends unseeing c ⟨[], c.after⟩ rfl

lemma piecesFrom_blind {r : Regex α} (unseeing : blind r = true) {n m : ℕ} {c c' : Cursor α}
    (same : c.after = c'.after) (enough : c.after.length ≤ n) (enough' : c.after.length ≤ m) :
    piecesFrom r n c = piecesFrom r m c' := by
  induction n generalizing m c c' with
  | zero =>
    rw [Nat.le_zero, List.length_eq_zero_iff] at enough
    cases m with
    | zero => rw [piecesFrom, piecesFrom, same]
    | succ m => rw [piecesFrom, piecesFrom, ← same, enough, List.map_nil]
  | succ n ih =>
    cases m with
    | zero =>
      rw [Nat.le_zero, List.length_eq_zero_iff] at enough'
      rw [piecesFrom, piecesFrom, ← same, enough', List.map_nil]
    | succ m =>
      have firsts := congrArg List.head? (map_after_ends unseeing c c' same)
      rw [List.head?_map, List.head?_map] at firsts
      rw [piecesFrom, piecesFrom, ← same]
      cases text : c.after with
      | nil => rfl
      | cons x after =>
        rw [text, List.length_cons] at enough enough'
        have next : piecesFrom r n ⟨x :: c.before, after⟩ = piecesFrom r m ⟨x :: c'.before, after⟩ :=
          ih rfl (Nat.le_of_succ_le_succ enough) (Nat.le_of_succ_le_succ enough')
        simp only
        cases here : (ends r c).head? with
        | none =>
          rw [here, Option.map_none, eq_comm, Option.map_eq_none_iff] at firsts
          rw [firsts]
          exact congrArg _ next
        | some d =>
          rw [here, Option.map_some, eq_comm, Option.map_eq_some_iff] at firsts
          obtain ⟨d', there, left⟩ := firsts
          rw [there]
          simp only [left]
          split
          · rename_i less
            rw [List.length_cons] at less
            exact congrArg _ (ih left.symm (by omega) (by omega))
          · rw [next]

/-! ## The pieces from left to right -/

lemma pieces_nil (r : Regex α) : pieces r [] = [] := rfl

/-- The preferred match at the beginning is the first piece. -/
theorem pieces_append {r : Regex α} (unseeing : blind r = true) {found rest : List α} (some_found : found ≠ [])
    (first : (rests r (found ++ rest)).head? = some rest) :
    pieces r (found ++ rest) = .matched found :: pieces r rest := by
  obtain ⟨x, more, rfl⟩ := List.exists_cons_of_ne_nil some_found
  rw [rests, List.head?_map, Option.map_eq_some_iff] at first
  obtain ⟨d, here, left⟩ := first
  rw [pieces, List.cons_append, List.length_cons, piecesFrom]
  simp only
  rw [List.cons_append] at here
  rw [here]
  simp only [left, List.length_cons, List.length_append]
  rw [if_pos (by omega), show more.length + rest.length + 1 - rest.length = (x :: more).length by
    rw [List.length_cons]; omega, ← List.cons_append, List.take_left]
  exact congrArg _ (piecesFrom_blind unseeing left (by rw [left]; omega) (by rw [left]))

/-- Without a match at the beginning the first element is kept. -/
theorem pieces_cons {r : Regex α} (unseeing : blind r = true) {x : α} {rest : List α}
    (unmatched : rests r (x :: rest) = []) : pieces r (x :: rest) = .kept x :: pieces r rest := by
  rw [rests, List.map_eq_nil_iff] at unmatched
  have next : piecesFrom r rest.length ⟨[x], rest⟩ = pieces r rest :=
    piecesFrom_blind unseeing rfl le_rfl le_rfl
  rw [pieces, List.length_cons, piecesFrom]
  simp only
  rw [unmatched, List.head?_nil, next]

/-! ## What the forms leave -/

lemma rests_seq (r : Regex α) {s : Regex α} (unseeing : blind s = true) (text : List α) :
    rests (.seq r s) text = (rests r text).flatMap (rests s) := by
  rw [rests, ends, List.map_flatMap, rests, List.flatMap_map]
  apply List.flatMap_congr
  intro d _
  exact map_after_eq_rests unseeing d

lemma rests_alt (r s : Regex α) (text : List α) : rests (.alt r s) text = rests r text ++ rests s text := by
  rw [rests, ends, List.map_append]
  rfl

lemma rests_empty (text : List α) : rests .empty text = [text] := rfl

lemma rests_one_cons (p : α → Bool) (x : α) (text : List α) :
    rests (.one p) (x :: text) = if p x = true then [text] else [] := by
  rw [rests, ends]
  simp only
  split_ifs <;> rfl

lemma rests_one_nil (p : α → Bool) : rests (.one p) [] = [] := rfl

/-- A repetition of one element prefers to take another, and can always stop. -/
lemma rests_star_one_cons (p : α → Bool) (x : α) (text : List α) :
    rests (.star (.one p)) (x :: text) =
      if p x = true then rests (.star (.one p)) text ++ [x :: text] else [x :: text] := by
  rw [rests, ends, List.length_cons, iterate, ends]
  simp only
  split_ifs with passes
  · rw [List.filter_cons_of_pos (by simp), List.filter_nil, List.flatMap_cons, List.flatMap_nil, List.append_nil,
      List.map_append]
    congr 1
    exact map_after_ends (r := .star (.one p)) rfl ⟨[x], text⟩ ⟨[], text⟩ rfl
  · rfl

lemma rests_star_one_nil (p : α → Bool) : rests (.star (.one p)) [] = [[]] := rfl

/-- It prefers to take all it can. -/
lemma rests_star_one (p : α → Bool) (text : List α) :
    ∃ others, rests (.star (.one p)) text = text.dropWhile p :: others := by
  induction text with
  | nil => exact ⟨[], rfl⟩
  | cons x text ih =>
    rw [rests_star_one_cons, List.dropWhile_cons]
    split_ifs with passes
    · obtain ⟨others, eq⟩ := ih
      exact ⟨others ++ [x :: text], by rw [eq, List.cons_append]⟩
    · exact ⟨[], rfl⟩

/-- When nothing follows an element it could take, it takes all it can. -/
lemma flatMap_rests_star_one {p : α → Bool} {s : Regex α}
    (stops : ∀ x rest, p x = true → rests s (x :: rest) = []) (text : List α) :
    (rests (.star (.one p)) text).flatMap (rests s) = rests s (text.dropWhile p) := by
  induction text with
  | nil => rw [rests_star_one_nil, List.flatMap_cons, List.flatMap_nil, List.append_nil, List.dropWhile_nil]
  | cons x text ih =>
    rw [rests_star_one_cons, List.dropWhile_cons]
    split_ifs with passes
    · rw [List.flatMap_append, ih, List.flatMap_cons, stops x text passes, List.flatMap_nil, List.append_nil,
        List.append_nil]
    · rw [List.flatMap_cons, List.flatMap_nil, List.append_nil]

/-! ## Replacing from left to right -/

section Replacing

variable {r : Regex α}

lemma suffix_of_head_rests {text left : List α} (first : (rests r text).head? = some left) : left <:+ text := by
  obtain ⟨d, here, rfl⟩ := List.mem_map.mp (List.mem_of_head? first)
  obtain ⟨found, cut, _⟩ := reaches_of_mem_ends here
  exact ⟨found, cut.symm⟩

/-- No match is empty. -/
def Consumes (r : Regex α) : Prop :=
  ∀ {text left : List α}, (rests r text).head? = some left → left.length < text.length

/-- A text begins with a match, or with an element that none begins with. -/
theorem scan_induction (consumes : Consumes r) {motive : List α → Prop} (nil : motive [])
    (found : ∀ text left, (rests r text).head? = some left → motive left → motive text)
    (kept : ∀ x rest, (rests r (x :: rest)).head? = none → motive rest → motive (x :: rest)) (text : List α) :
    motive text := by
  induction h : text.length using Nat.strong_induction_on generalizing text with
  | _ n ih =>
    subst h
    cases first : (rests r text).head? with
    | some left => exact found text left first (ih _ (consumes first) left rfl)
    | none =>
      cases text with
      | nil => exact nil
      | cons x rest => exact kept x rest first (ih _ (Nat.lt_succ_self _) rest rfl)

/-- What is in the result was in the text or comes from the replacement. -/
lemma mem_sub {repl text : List α} {x : α} (mem : x ∈ sub r repl text) : x ∈ repl ∨ x ∈ text := by
  obtain ⟨piece, cut, here⟩ := List.mem_flatMap.mp mem
  cases piece with
  | kept y =>
    right
    rw [← source_pieces r text]
    exact List.mem_flatMap.mpr ⟨_, cut, here⟩
  | matched found => exact .inl here

section Blind

variable (unseeing : blind r = true)
include unseeing

/-- A match at the beginning is replaced. -/
lemma sub_of_first {repl text left : List α} (first : (rests r text).head? = some left)
    (shorter : left.length < text.length) : sub r repl text = repl ++ sub r repl left := by
  obtain ⟨found, rfl⟩ := suffix_of_head_rests first
  have some_found : found ≠ [] := by
    rintro rfl
    exact absurd shorter (lt_irrefl _)
  rw [sub, pieces_append unseeing some_found first]
  rfl

/-- Without a match at the beginning the first element stays. -/
lemma sub_of_unmatched {repl : List α} {x : α} {rest : List α} (unmatched : (rests r (x :: rest)).head? = none) :
    sub r repl (x :: rest) = x :: sub r repl rest := by
  rw [sub, pieces_cons unseeing (List.head?_eq_none_iff.mp unmatched)]
  rfl

/-- A text without a match stays as it is. -/
theorem sub_eq_self {repl text : List α}
    (unmatched : ∀ x rest, x :: rest <:+ text → (rests r (x :: rest)).head? = none) : sub r repl text = text := by
  induction text with
  | nil => rfl
  | cons x rest ih =>
    rw [sub_of_unmatched unseeing (unmatched x rest List.suffix_rfl),
      ih fun y more within => unmatched y more (within.trans (List.suffix_cons x rest))]

/-- A part at the end stays where no match begins in it and none reaches into it. -/
theorem exists_sub_append (consumes : Consumes r) {repl part : List α} (stays : sub r repl part = part)
    (stops : ∀ x front left, (rests r (x :: (front ++ part))).head? = some left → part <:+ left) (front : List α) :
    ∃ swept, sub r repl (front ++ part) = swept ++ part := by
  induction h : front.length using Nat.strong_induction_on generalizing front with
  | _ n ih =>
    subst h
    cases front with
    | nil => exact ⟨[], stays⟩
    | cons x front =>
      cases first : (rests r (x :: (front ++ part))).head? with
      | none =>
        obtain ⟨swept, eq⟩ := ih _ (Nat.lt_succ_self _) front rfl
        rw [List.cons_append, sub_of_unmatched unseeing first, eq]
        exact ⟨x :: swept, rfl⟩
      | some left =>
        have shorter := consumes first
        obtain ⟨more, rfl⟩ := stops x front left first
        rw [List.length_append, List.length_cons, List.length_append] at shorter
        obtain ⟨swept, eq⟩ := ih more.length (by rw [List.length_cons]; omega) more rfl
        rw [List.cons_append, sub_of_first unseeing first (consumes first), eq]
        exact ⟨repl ++ swept, (List.append_assoc ..).symm⟩

end Blind

/-! ## One element repeated -/

lemma head_rests_star_one (p : α → Bool) (text : List α) :
    (rests (.star (.one p)) text).head? = some (text.dropWhile p) := by
  obtain ⟨others, eq⟩ := rests_star_one p text
  rw [eq]
  rfl

lemma rests_ahead (p : α → Bool) (text : List α) :
    rests (.ahead p) text = if text.head?.any p then [text] else [] := by
  rw [rests, ends]
  simp only
  split_ifs <;> rfl

/-- All that passes the test, where what follows passes another. -/
lemma head_rests_star_ahead {p q : α → Bool} (apart : ∀ x, p x = true → q x = false) (text : List α) :
    (rests (.seq (.star (.one p)) (.ahead q)) text).head? =
      if (text.dropWhile p).head?.any q then some (text.dropWhile p) else none := by
  have stops (x : α) (rest : List α) (passes : p x = true) : rests (.ahead q) (x :: rest) = [] := by
    rw [rests_ahead, List.head?_cons, Option.any_some, apart x passes]
    rfl
  rw [rests_seq _ rfl, flatMap_rests_star_one stops, rests_ahead]
  split_ifs <;> rfl

lemma suffix_dropWhile {p : α → Bool} {part text : List α} (within : part <:+ text)
    (stop : ∀ x ∈ part.head?, p x = false) : part <:+ text.dropWhile p := by
  obtain ⟨front, rfl⟩ := within
  have stays : part.dropWhile p = part := by
    cases part with
    | nil => rfl
    | cons x rest => exact List.dropWhile_cons_of_neg (by simp [stop x rfl])
  induction front with
  | nil =>
    rw [List.nil_append, stays]
  | cons y front ih =>
    rw [List.cons_append, List.dropWhile_cons]
    split_ifs
    · exact ih
    · exact List.suffix_append (y :: front) part

end Replacing

variable [DecidableEq α]

lemma blind_lit (w : List α) : blind (lit w) = true := by
  induction w with
  | nil => rfl
  | cons x w ih => exact ih

lemma rests_lit_append (w text : List α) : rests (lit w) (w ++ text) = [text] := by
  induction w with
  | nil => rfl
  | cons x w ih =>
    rw [lit, rests_seq _ (blind_lit w), List.cons_append, rests_one_cons, if_pos (by simp), List.flatMap_cons, ih]
    rfl

lemma rests_lit_elsewhere {w text : List α} (no : ¬ w <+: text) : rests (lit w) text = [] := by
  induction w generalizing text with
  | nil => exact absurd List.nil_prefix no
  | cons x w ih =>
    rw [lit, rests_seq _ (blind_lit w)]
    cases text with
    | nil => rfl
    | cons y text =>
      rw [rests_one_cons]
      split_ifs with same
      · obtain rfl : y = x := of_decide_eq_true same
        rw [List.flatMap_cons, ih fun within => no (List.cons_prefix_cons.mpr ⟨rfl, within⟩)]
        rfl
      · rfl

/-! ## Replacing a literal text -/

theorem sub_lit_append {w : List α} (some_word : w ≠ []) (repl text : List α) :
    sub (lit w) repl (w ++ text) = repl ++ sub (lit w) repl text := by
  have first : (rests (lit w) (w ++ text)).head? = some text := by rw [rests_lit_append]; rfl
  rw [sub, pieces_append (blind_lit w) some_word first]
  rfl

theorem sub_lit_cons {w : List α} {x : α} {text : List α} (repl : List α) (no : ¬ w <+: x :: text) :
    sub (lit w) repl (x :: text) = x :: sub (lit w) repl text := by
  rw [sub, pieces_cons (blind_lit w) (rests_lit_elsewhere no)]
  rfl

end ClientEngagement.Regex
