import ClientEngagement.Agents.ToolRuntime

/-!
# When every call leaves its trace

The runs of `Agents/ToolRuntime`. `Accounted` is what every run keeps: the ordinals are given out in order, a
call under way is the one its group waits for, and the budgets count the queries that ran. A trace that is
lost stays lost (`sound_of_step`), and a step loses none exactly when it is a kept one (`kept_iff`): together
`every_call_traced_iff`.
-/

namespace ClientEngagement.Agents.ToolRuntime

variable {γ Input Output Write : Type}

/-! ## What every run keeps -/

variable [DecidableEq γ] {tools : Toolbox Output} {start : ℕ} {s t : RunState γ Input Output Write}
  {event : RunEvent γ Input Output Write}

/-- The ordinals are given out in order, a call under way is the one its group waits for, and the budget of
    a group counts the queries that ran. -/
structure Accounted (tools : Toolbox Output) (start : ℕ) (s : RunState γ Input Output Write) : Prop where
  ordinals : s.calls.map ToolCall.ordinal = List.range' start s.calls.length
  next : s.next = start + s.calls.length
  calling : ∀ group ordinal toolName, (s.groups group).phase = .calling ordinal toolName →
    ∃ call ∈ s.calls, call.ordinal = ordinal ∧ call.group = group ∧ call.toolName = toolName ∧
      call.place = .running
  running : ∀ call ∈ s.calls, call.place = .running →
    (s.groups call.group).phase = .calling call.ordinal call.toolName ∧ call.output = none ∧
      call.executed = false
  flushed : ∀ call ∈ s.calls, call.place = .flushed → (s.groups call.group).phase ≠ .ended
  recorded : ∀ call ∈ s.calls, call.place = .flushed ∨ call.place = .committed → call.output ≠ none
  refused : ∀ call ∈ s.calls, call.refused = true → call.executed = false ∧ call.writes = []
  spent : ∀ group, (s.queriesRun tools group).length = (s.groups group).budget.taken
  within : ∀ group, (s.groups group).budget.Within tools.queryBudget

lemma Accounted.nodup (acc : Accounted tools start s) : (s.calls.map ToolCall.ordinal).Nodup :=
  acc.ordinals ▸ List.nodup_range'

/-- Calls with one ordinal are one call. -/
lemma Accounted.eq_of_ordinal (acc : Accounted tools start s) {c d : ToolCall γ Input Output Write}
    (hc : c ∈ s.calls) (hd : d ∈ s.calls) (same : c.ordinal = d.ordinal) : c = d :=
  List.inj_on_of_nodup_map acc.nodup hc hd same

lemma accounted_initial : Accounted tools start
    (RunState.initial tools start : RunState γ Input Output Write) where
  ordinals := rfl
  next := rfl
  calling := nofun
  running := fun _ mem => absurd mem List.not_mem_nil
  flushed := fun _ mem => absurd mem List.not_mem_nil
  recorded := fun _ mem => absurd mem List.not_mem_nil
  refused := fun _ mem => absurd mem List.not_mem_nil
  spent := fun _ => rfl
  within := fun _ => ⟨rfl, by simp [RunState.initial]⟩

/-- Rewriting the one element with a key. -/
lemma exists_split_map {α κ : Type*} [DecidableEq κ] {key : α → κ} {l : List α} {a : α} (f : α → α)
    (nodup : (l.map key).Nodup) (mem : a ∈ l) : ∃ before after, l = before ++ a :: after ∧
      (l.map fun b => if key b = key a then f b else b) = before ++ f a :: after := by
  obtain ⟨before, after, split⟩ := List.append_of_mem mem
  subst split
  rw [List.map_append, List.map_cons, List.nodup_append] at nodup
  obtain ⟨_, nodupAfter, apart⟩ := nodup
  rw [List.nodup_cons] at nodupAfter
  refine ⟨before, after, rfl, ?_⟩
  rw [List.map_append, List.map_cons, if_pos rfl]
  have first : (before.map fun b => if key b = key a then f b else b) = before := by
    refine (List.map_congr_left fun b hb => if_neg fun same => ?_).trans (List.map_id _)
    exact apart _ (List.mem_map_of_mem hb) _ (List.mem_cons_self ..) same
  have last : (after.map fun b => if key b = key a then f b else b) = after := by
    refine (List.map_congr_left fun b hb => if_neg fun same => ?_).trans (List.map_id _)
    exact nodupAfter.1 (same ▸ List.mem_map_of_mem hb)
  rw [first, last]

@[simp] lemma ordinal_closed {group : γ} {place : Place} (c : ToolCall γ Input Output Write) :
    (c.closed group place).ordinal = c.ordinal := by
  rw [ToolCall.closed]
  split
  · rfl
  · rfl

/-- Ending a session moves the flushed rows of its group and nothing else. -/
lemma closed_eq {group : γ} {place : Place} (c : ToolCall γ Input Output Write) :
    c.closed group place = { c with place := (c.closed group place).place } := by
  rw [ToolCall.closed]
  split
  · rfl
  · rfl

lemma place_closed {group : γ} {place : Place} (c : ToolCall γ Input Output Write) :
    c.group = group ∧ c.place = .flushed ∧ (c.closed group place).place = place ∨
      ¬ (c.group = group ∧ c.place = .flushed) ∧ (c.closed group place).place = c.place := by
  rw [ToolCall.closed]
  split
  · rename_i both
    exact .inl ⟨both.1, both.2, rfl⟩
  · rename_i not
    exact .inr ⟨not, rfl⟩

section Groups

variable (s : RunState γ Input Output Write) (group other : γ)

lemma phase_makes (toolName : String) (toolInput : Input) :
    ((s.makes group toolName toolInput).groups other).phase =
      if other = group then .calling s.next toolName else (s.groups other).phase := by
  rw [RunState.makes]
  simp only [Function.update_apply]
  split
  · rfl
  · rfl

lemma phase_answers (ordinal : ℕ) (answer : Answer Output Write) :
    ((s.answers group tools ordinal answer).groups other).phase =
      if other = group then (if answer.raises then .raised else .idle) else (s.groups other).phase := by
  rw [RunState.answers]
  simp only [Function.update_apply]
  split
  · rfl
  · rfl

lemma phase_closes (place : Place) :
    ((s.closes group place).groups other).phase =
      if other = group then .ended else (s.groups other).phase := by
  rw [RunState.closes]
  simp only [Function.update_apply]
  split
  · rfl
  · rfl

lemma budget_makes (toolName : String) (toolInput : Input) :
    ((s.makes group toolName toolInput).groups other).budget = (s.groups other).budget := by
  rw [RunState.makes]
  simp only [Function.update_apply]
  split
  · rename_i same
    rw [same]
  · rfl

lemma budget_answers (ordinal : ℕ) (answer : Answer Output Write) :
    ((s.answers group tools ordinal answer).groups other).budget =
      if other = group then answer.budget else (s.groups other).budget := by
  rw [RunState.answers]
  simp only [Function.update_apply]
  split
  · rfl
  · rfl

lemma budget_closes (place : Place) :
    ((s.closes group place).groups other).budget = (s.groups other).budget := by
  rw [RunState.closes]
  simp only [Function.update_apply]
  split
  · rename_i same
    rw [same]
  · rfl

end Groups

/-- A call is made. -/
lemma Accounted.makes {group : γ} {toolName : String} {toolInput : Input}
    (acc : Accounted tools start s) (idle : (s.groups group).phase = .idle) :
    Accounted tools start (s.makes group toolName toolInput) := by
  constructor
  case ordinals =>
    rw [RunState.makes, List.map_append, acc.ordinals, List.length_append, List.map_singleton,
      List.length_singleton, List.range'_concat, acc.next, Nat.one_mul]
  case next =>
    rw [RunState.makes, List.length_append, acc.next]
    rfl
  case calling =>
    intro other ordinal name phase
    rw [phase_makes] at phase
    split at phase
    · rename_i same
      cases phase
      exact ⟨_, List.mem_append_right _ (List.mem_singleton_self _), rfl, same.symm, rfl, rfl⟩
    · obtain ⟨call, mem, given⟩ := acc.calling other ordinal name phase
      exact ⟨call, List.mem_append_left _ mem, given⟩
  case running =>
    intro call mem place
    rw [phase_makes]
    cases List.mem_append.mp mem with
    | inl old =>
      obtain ⟨phase, rest⟩ := acc.running call old place
      refine ⟨?_, rest⟩
      rw [if_neg, phase]
      intro same
      rw [same, idle] at phase
      cases phase
    | inr now =>
      obtain rfl := List.mem_singleton.mp now
      exact ⟨if_pos rfl, rfl, rfl⟩
  case flushed =>
    intro call mem place
    cases List.mem_append.mp mem with
    | inl old =>
      rw [phase_makes]
      split
      · nofun
      · exact acc.flushed call old place
    | inr now =>
      obtain rfl := List.mem_singleton.mp now
      cases place
  case recorded =>
    intro call mem place
    cases List.mem_append.mp mem with
    | inl old => exact acc.recorded call old place
    | inr now =>
      obtain rfl := List.mem_singleton.mp now
      cases place with
      | inl h => cases h
      | inr h => cases h
  case refused =>
    intro call mem refused
    cases List.mem_append.mp mem with
    | inl old => exact acc.refused call old refused
    | inr now =>
      obtain rfl := List.mem_singleton.mp now
      cases refused
  case spent =>
    intro other
    rw [budget_makes, ← acc.spent other, RunState.queriesRun, RunState.makes, List.filter_append,
      List.length_append]
    simp [RunState.queriesRun]
  case within =>
    intro other
    rw [budget_makes]
    exact acc.within other

/-- A group's session ends. -/
lemma Accounted.closes {group : γ} {place : Place} (acc : Accounted tools start s)
    (stopped : ∀ ordinal toolName, (s.groups group).phase ≠ .calling ordinal toolName)
    (ended : place = .committed ∨ place = .lost) : Accounted tools start (s.closes group place) := by
  constructor
  case ordinals =>
    rw [RunState.closes, List.map_map, List.length_map, ← acc.ordinals]
    exact List.map_congr_left fun c _ => ordinal_closed c
  case next => rw [RunState.closes, acc.next, List.length_map]
  case calling =>
    intro other ordinal name phase
    rw [phase_closes] at phase
    split at phase
    · cases phase
    · rename_i different
      obtain ⟨call, mem, given⟩ := acc.calling other ordinal name phase
      have same : call.closed group place = call := by
        rw [ToolCall.closed, if_neg]
        rintro ⟨mine, _⟩
        exact different (given.2.1.symm.trans mine)
      exact ⟨call, List.mem_map.mpr ⟨call, mem, same⟩, given⟩
  case running =>
    intro call mem running
    obtain ⟨c, old, same⟩ := List.mem_map.mp mem
    subst same
    cases @place_closed _ _ _ _ _ group place c with
    | inl moved =>
      rw [moved.2.2] at running
      cases ended with
      | inl h => exact absurd (h.symm.trans running) nofun
      | inr h => exact absurd (h.symm.trans running) nofun
    | inr stays =>
      rw [stays.2] at running
      obtain ⟨phase, rest⟩ := acc.running c old running
      rw [closed_eq]
      refine ⟨?_, rest⟩
      rw [phase_closes, if_neg, phase]
      intro same
      rw [same] at phase
      exact stopped _ _ phase
  case flushed =>
    intro call mem flushed
    obtain ⟨c, old, same⟩ := List.mem_map.mp mem
    subst same
    cases @place_closed _ _ _ _ _ group place c with
    | inl moved =>
      rw [moved.2.2] at flushed
      cases ended with
      | inl h => exact absurd (h.symm.trans flushed) nofun
      | inr h => exact absurd (h.symm.trans flushed) nofun
    | inr stays =>
      rw [stays.2] at flushed
      have other : c.group ≠ group := fun mine => stays.1 ⟨mine, flushed⟩
      rw [closed_eq, phase_closes, if_neg other]
      exact acc.flushed c old flushed
  case recorded =>
    intro call mem place'
    obtain ⟨c, old, same⟩ := List.mem_map.mp mem
    subst same
    have was : c.place = .flushed ∨ c.place = .committed := by
      cases @place_closed _ _ _ _ _ group place c with
      | inl moved => exact .inl moved.2.1
      | inr stays => rwa [stays.2] at place'
    rw [closed_eq]
    exact acc.recorded c old was
  case refused =>
    intro call mem refused
    obtain ⟨c, old, same⟩ := List.mem_map.mp mem
    subst same
    rw [closed_eq] at refused ⊢
    exact acc.refused c old refused
  case spent =>
    intro other
    rw [budget_closes, ← acc.spent other, RunState.queriesRun, RunState.closes, List.filter_map,
      List.length_map]
    congr 1
    refine List.filter_congr fun c _ => ?_
    rw [Function.comp_apply, closed_eq]
  case within =>
    intro other
    rw [budget_closes]
    exact acc.within other

/-- After an answer the calls are the answered one and the others. -/
lemma Accounted.mem_answers {group : γ} {answer : Answer Output Write} {call c : ToolCall γ Input Output Write}
    (acc : Accounted tools start s) (mem : call ∈ s.calls)
    (listed : c ∈ (s.answers group tools call.ordinal answer).calls) :
    c = call.answered tools answer ∨ c ∈ s.calls ∧ c.ordinal ≠ call.ordinal := by
  obtain ⟨d, old, same⟩ := List.mem_map.mp listed
  subst same
  split
  · rename_i ordinal
    exact .inl (acc.eq_of_ordinal old mem ordinal ▸ rfl)
  · rename_i other
    exact .inr ⟨old, other⟩

/-- The executor answers the call its group waits for. -/
lemma Accounted.answers {group : γ} {ordinal : ℕ} {toolName : String} {answer : Answer Output Write}
    (acc : Accounted tools start s) (calling : (s.groups group).phase = .calling ordinal toolName)
    (sound : answer.Sound tools (s.groups group).budget toolName) :
    Accounted tools start (s.answers group tools ordinal answer) := by
  obtain ⟨call, mem, ordinal_, group_, name, place⟩ := acc.calling group ordinal toolName calling
  subst ordinal_
  have stays : ∀ c ∈ s.calls, c.ordinal ≠ call.ordinal → c.place = .running → c.group ≠ group := by
    intro c old other running same
    have phase := (acc.running c old running).1
    rw [same, calling] at phase
    injection phase with ordinal
    exact other ordinal.symm
  constructor
  case ordinals =>
    rw [RunState.answers, List.map_map, List.length_map, ← acc.ordinals]
    refine List.map_congr_left fun c _ => ?_
    rw [Function.comp_apply]
    split
    · rfl
    · rfl
  case next => rw [RunState.answers, acc.next, List.length_map]
  case calling =>
    intro other ordinal' name' phase
    rw [phase_answers] at phase
    split at phase
    · split at phase
      · cases phase
      · cases phase
    · rename_i different
      obtain ⟨c, old, given⟩ := acc.calling other ordinal' name' phase
      have apart : c.ordinal ≠ call.ordinal := by
        intro same
        rw [acc.eq_of_ordinal old mem same] at given
        exact different (given.2.1.symm.trans group_)
      exact ⟨c, List.mem_map.mpr ⟨c, old, if_neg apart⟩, given⟩
  case running =>
    intro c listed running
    cases acc.mem_answers mem listed with
    | inl now =>
      subst now
      exact absurd running (place_answered answer call).1
    | inr old =>
      obtain ⟨phase, rest⟩ := acc.running c old.1 running
      rw [phase_answers, if_neg (stays c old.1 old.2 running)]
      exact ⟨phase, rest⟩
  case flushed =>
    intro c listed flushed
    rw [phase_answers]
    split
    · split
      · nofun
      · nofun
    · rename_i different
      cases acc.mem_answers mem listed with
      | inl now =>
        subst now
        exact absurd group_ different
      | inr old => exact acc.flushed c old.1 flushed
  case recorded =>
    intro c listed written
    cases acc.mem_answers mem listed with
    | inl now =>
      subst now
      intro none_
      have lost := (@place_answered _ _ _ _ tools answer call).2.mpr none_
      cases written with
      | inl h => exact absurd (lost.symm.trans h) nofun
      | inr h => exact absurd (lost.symm.trans h) nofun
    | inr old => exact acc.recorded c old.1 written
  case refused =>
    intro c listed refused
    cases acc.mem_answers mem listed with
    | inl now =>
      subst now
      exact sound.refused refused
    | inr old => exact acc.refused c old.1 refused
  case spent =>
    intro other
    obtain ⟨before, after, split, mapped⟩ :=
      exists_split_map (ToolCall.answered tools answer) acc.nodup mem
    have was := acc.spent other
    have idle := (acc.running call mem place).2.2
    rw [RunState.queriesRun, split] at was
    rw [budget_answers, RunState.queriesRun, RunState.answers]
    simp only [mapped, List.filter_append, List.filter_cons, List.length_append] at was ⊢
    rw [idle] at was
    simp only [Bool.false_eq_true, and_false, decide_false, if_false] at was
    by_cases mine : other = group
    · subst mine
      rw [if_pos rfl, sound.spends, ← was]
      by_cases counts : toolName ∈ tools.queryNames ∧ answer.executed = true
      · simp [ToolCall.answered, group_, name, counts.1, counts.2]
        omega
      · rw [if_neg counts, if_neg]
        · rfl
        · simp only [ToolCall.answered, decide_eq_true_eq, name]
          exact fun all => counts all.2
    · rw [if_neg mine, ← was, if_neg]
      simp only [ToolCall.answered, decide_eq_true_eq, group_]
      exact fun all => mine all.1.symm
  case within =>
    intro other
    rw [budget_answers]
    split
    · exact sound.within (acc.within group)
    · exact acc.within other

lemma Accounted.step (acc : Accounted tools start s) (st : RunStep tools s event t) :
    Accounted tools start t := by
  cases st with
  | call idle => exact acc.makes idle
  | answer calling => exact acc.answers calling sound_callTool
  | commit idle =>
    refine acc.closes (fun _ _ calling => ?_) (.inl rfl)
    rw [idle] at calling
    cases calling
  | fail stops =>
    refine acc.closes (fun _ _ calling => ?_) (.inr rfl)
    rw [calling] at stops
    cases stops with
    | inl h => cases h
    | inr h => cases h

/-! ## When a trace is lost -/

def RunState.Sound (s : RunState γ Input Output Write) : Prop := ∀ call ∈ s.calls, ¬ call.Broken

lemma broken_closed_iff {group : γ} {place : Place} {call : ToolCall γ Input Output Write}
    (sound : ¬ call.Broken) : (call.closed group place).Broken ↔
      call.group = group ∧ call.place = .flushed ∧ place = .lost := by
  have kept : ¬ ((∃ output, call.output = some output ∧ output.IsInvalidInput) ∧ call.writes ≠ []) :=
    fun h => sound (.inr h)
  rw [ToolCall.Broken, closed_eq]
  simp only [kept, or_false]
  cases @place_closed _ _ _ _ _ group place call with
  | inl moved =>
    rw [moved.2.2]
    exact ⟨fun lost => ⟨moved.1, moved.2.1, lost⟩, fun h => h.2.2⟩
  | inr stays =>
    rw [stays.2]
    exact ⟨fun lost => absurd (.inl lost) sound, fun h => absurd ⟨h.1, h.2.1⟩ stays.1⟩

/-- The end of a session mends nothing. -/
lemma broken_closed {group : γ} {place : Place} {call : ToolCall γ Input Output Write}
    (broken : call.Broken) : (call.closed group place).Broken := by
  rw [closed_eq]
  cases broken with
  | inr invalid => exact .inr invalid
  | inl lost =>
    left
    cases @place_closed _ _ _ _ _ group place call with
    | inl moved => exact absurd (lost.symm.trans moved.2.1) nofun
    | inr stays => exact stays.2.trans lost

/-- A lost trace stays lost. -/
lemma sound_of_step (acc : Accounted tools start s) (st : RunStep tools s event t) (sound : t.Sound) :
    s.Sound := by
  intro c old broken
  cases st with
  | call idle => exact sound c (List.mem_append_left _ old) broken
  | @answer group ordinal toolName body calling =>
    obtain ⟨call, mem, ordinal_, _, _, place⟩ := acc.calling group ordinal toolName calling
    have other : c.ordinal ≠ ordinal := by
      intro same
      rw [acc.eq_of_ordinal old mem (same.trans ordinal_.symm)] at broken
      cases broken with
      | inl lost => exact absurd (place.symm.trans lost) nofun
      | inr invalid =>
        obtain ⟨⟨output, some_, _⟩, _⟩ := invalid
        exact absurd ((acc.running call mem place).2.1.symm.trans some_) nofun
    exact sound c (List.mem_map.mpr ⟨c, old, if_neg other⟩) broken
  | commit idle => exact sound _ (List.mem_map_of_mem old) (broken_closed broken)
  | fail stops => exact sound _ (List.mem_map_of_mem old) (broken_closed broken)

/-- A step loses no trace exactly when it is a kept one. -/
lemma kept_iff (acc : Accounted tools start s) (sound : s.Sound) (st : RunStep tools s event t) :
    Kept tools s event ↔ t.Sound := by
  cases st with
  | @call group toolName toolInput idle =>
    refine iff_of_true trivial fun c listed broken => ?_
    cases List.mem_append.mp listed with
    | inl old => exact sound c old broken
    | inr now =>
      obtain rfl := List.mem_singleton.mp now
      cases broken with
      | inl lost => cases lost
      | inr invalid => exact invalid.2 rfl
  | @answer group ordinal toolName body calling =>
    obtain ⟨call, mem, ordinal_, _, _, _⟩ := acc.calling group ordinal toolName calling
    subst ordinal_
    have guard : Kept tools s (.answer group body) ↔
        (callTool tools (s.groups group).budget toolName body).Leaves := by
      rw [leaves_callTool_iff]
      constructor
      · exact fun kept => kept _ _ calling
      · intro kept ordinal' name' calling'
        rw [calling] at calling'
        injection calling' with _ name
        subst name
        exact kept
    rw [guard]
    constructor
    · intro leaves c listed broken
      cases acc.mem_answers mem listed with
      | inl now =>
        subst now
        exact broken_answered_iff.mp broken leaves
      | inr old => exact sound c old.1 broken
    · intro sound'
      by_contra leaves
      exact sound' _ (List.mem_map.mpr ⟨call, mem, if_pos rfl⟩) (broken_answered_iff.mpr leaves)
  | @commit group idle =>
    refine iff_of_true trivial fun c listed broken => ?_
    obtain ⟨d, old, same⟩ := List.mem_map.mp listed
    subst same
    exact absurd ((broken_closed_iff (sound d old)).mp broken).2.2 nofun
  | @fail group stops =>
    constructor
    · intro kept c listed broken
      obtain ⟨d, old, same⟩ := List.mem_map.mp listed
      subst same
      obtain ⟨mine, flushed, _⟩ := (broken_closed_iff (sound d old)).mp broken
      exact kept d old mine flushed
    · intro sound' c old mine flushed
      exact sound' _ (List.mem_map_of_mem old) ((broken_closed_iff (sound c old)).mpr ⟨mine, flushed, rfl⟩)

/-! ## The trace at the end -/

/-- A refused call has done nothing. -/
lemma Accounted.refused_writes (acc : Accounted tools start s) {call : ToolCall γ Input Output Write}
    (mem : call ∈ s.calls) (none_ : call.writes = []) : ∀ write ∈ s.data, write.1 ≠ call.ordinal := by
  intro write written same
  obtain ⟨c, listed, _, ordinal, left⟩ := mem_data.mp written
  rw [acc.eq_of_ordinal listed mem (ordinal.trans same), none_] at left
  cases left

/-- When every group has ended each row is committed or lost. -/
lemma Accounted.place_over (acc : Accounted tools start s) (finished : s.Over)
    {call : ToolCall γ Input Output Write} (mem : call ∈ s.calls) :
    call.place = .committed ∨ call.place = .lost := by
  cases place : call.place with
  | running =>
    have phase := (acc.running call mem place).1
    rw [finished call mem] at phase
    cases phase
  | flushed => exact absurd (finished call mem) (acc.flushed call mem place)
  | committed => exact .inl rfl
  | lost => exact .inr rfl

lemma map_filterMap_of_some {α β κ : Type*} {f : α → Option β} {key : α → κ} {key' : β → κ} {l : List α}
    (some_ : ∀ a ∈ l, ∃ b, f a = some b ∧ key' b = key a) : (l.filterMap f).map key' = l.map key := by
  induction l with
  | nil => rfl
  | cons a l ih =>
    obtain ⟨b, found, same⟩ := some_ a (List.mem_cons_self ..)
    rw [List.filterMap_cons_some found, List.map_cons, List.map_cons, same,
      ih fun c mem => some_ c (List.mem_cons_of_mem _ mem)]

/-- At the end of a run no trace is lost exactly when every call left its own. -/
lemma Accounted.traced_iff (acc : Accounted tools start s) (finished : s.Over) :
    Traced tools start s ↔ s.Sound := by
  constructor
  · intro traced c mem broken
    have row : ∃ row ∈ s.rows, row.asked = c.asked :=
      List.mem_map.mp ((traced.each_call.mem_iff).mpr (List.mem_map_of_mem mem))
    obtain ⟨row, listed, asked⟩ := row
    obtain ⟨d, old, committed, same, output⟩ := mem_rows.mp listed
    have ordinals : d.ordinal = c.ordinal := congrArg Prod.fst (same.trans asked)
    obtain rfl := acc.eq_of_ordinal old mem ordinals
    cases broken with
    | inl lost => exact absurd (committed.symm.trans lost) nofun
    | inr invalid =>
      obtain ⟨⟨output', some_, is⟩, written⟩ := invalid
      rw [output] at some_
      obtain ⟨w, left⟩ := List.exists_mem_of_ne_nil _ written
      have data : (d.ordinal, w) ∈ s.data := mem_data.mpr ⟨d, old, committed, rfl, left⟩
      refine traced.invalid row listed (Option.some.inj some_ ▸ is) _ data ?_
      exact (congrArg Prod.fst asked).symm
  · intro sound
    have committed : ∀ c ∈ s.calls, c.place = .committed := by
      intro c mem
      cases acc.place_over finished mem with
      | inl h => exact h
      | inr lost => exact absurd (.inl lost) (sound c mem)
    have row : ∀ c ∈ s.calls, ∃ row : ToolRow Input Output, c.row? = some row ∧ row.asked = c.asked := by
      intro c mem
      obtain ⟨output, some_⟩ :=
        Option.ne_none_iff_exists'.mp (acc.recorded c mem (.inr (committed c mem)))
      rw [ToolCall.row?, if_pos (committed c mem), some_]
      exact ⟨_, rfl, rfl⟩
    have asked : s.rows.map ToolRow.asked = s.calls.map ToolCall.asked := map_filterMap_of_some row
    have ordinals : s.rows.map ToolRow.ordinal = s.calls.map ToolCall.ordinal := by
      have firsts := congrArg (List.map Prod.fst) asked
      rwa [List.map_map, List.map_map] at firsts
    have length : s.rows.length = s.calls.length := by
      have lengths := congrArg List.length asked
      rwa [List.length_map, List.length_map] at lengths
    constructor
    case each_call => rw [asked]
    case consecutive => rw [ordinals, acc.ordinals, length]
    case budget =>
      intro group
      rw [acc.spent group]
      exact (acc.within group).2
    case refused =>
      intro c mem refused
      obtain ⟨idle, none_⟩ := acc.refused c mem refused
      exact ⟨idle, acc.refused_writes mem none_⟩
    case invalid =>
      intro row listed is
      obtain ⟨c, mem, _, same, output⟩ := mem_rows.mp listed
      have none_ : c.writes = [] := by
        by_contra written
        exact sound c mem (.inr ⟨⟨_, output, is⟩, written⟩)
      have ordinal : c.ordinal = row.ordinal := congrArg Prod.fst same
      exact ordinal ▸ acc.refused_writes mem none_

/-- In a run whose groups have all ended, every call left its trace exactly when every step is a kept one. -/
theorem every_call_traced_iff {events : List (RunEvent γ Input Output Write)}
    (run : Run (RunStep tools) (RunState.initial tools start) events s) (finished : s.Over) :
    Traced tools start s ↔
      Run (Guarded (Kept tools) (RunStep tools)) (RunState.initial tools start) events s := by
  have initial : (RunState.initial tools start : RunState γ Input Output Write).Sound :=
    fun _ mem => absurd mem List.not_mem_nil
  have keeps : ∀ (t : RunState γ Input Output Write) l u, Accounted tools start t →
      RunStep tools t l u → Accounted tools start u := fun _ _ _ acc st => acc.step st
  have acc : Accounted tools start s := run.invariant _ accounted_initial keeps
  rw [acc.traced_iff finished]
  have exact_ : Run (Guarded (Kept tools) (RunStep tools)) (RunState.initial tools start) events s ↔
      Run (Keeping (fun t => Accounted tools start t ∧ t.Sound) (RunStep tools))
        (RunState.initial tools start) events s := by
    refine Run.guarded_iff_keeping ⟨accounted_initial, initial⟩ fun t l u kept st => ?_
    rw [kept_iff kept.1 kept.2 st]
    exact ⟨fun sound => ⟨kept.1.step st, sound⟩, And.right⟩
  rw [exact_]
  constructor
  · intro sound
    refine run.keeping_of_last accounted_initial keeps (fun t l u acc' st kept => ?_) ⟨acc, sound⟩
    exact ⟨acc', sound_of_step acc' st kept.2⟩
  · exact fun kept => (kept.keeps ⟨accounted_initial, initial⟩).2

/-- One query tool and one read tool, and outputs that the scanner lets through. -/
def sampleTools : Toolbox String where
  queryNames := ["measure_slice"]
  queryFunctions := ["measure_slice"]
  otherTools := ["list_groups"]
  queryBudget := 1
  check := fun _ => .clean

/-- Two groups make a call each: a read through the session of the first one and a query of the second. -/
def sampleState : RunState ℕ Unit String String :=
  (((RunState.initial sampleTools 1).makes 0 "list_groups" ()).makes 1 "measure_slice" ()).answers 0
    sampleTools 1 (callTool sampleTools { limit := 1 } "list_groups" ⟨[], .returned "three"⟩) |>.answers 1
    sampleTools 2 (callTool sampleTools { limit := 1 } "measure_slice" ⟨[], .returned "five"⟩)

lemma sampleRun : Run (RunStep sampleTools) (RunState.initial sampleTools 1)
    ([] ++ [.call 0 "list_groups" ()] ++ [.call 1 "measure_slice" ()] ++
      [.answer 0 ⟨[], .returned "three"⟩] ++ [.answer 1 ⟨[], .returned "five"⟩]) sampleState :=
  .snoc (.snoc (.snoc (.snoc .nil (.call rfl)) (.call rfl)) (.answer rfl)) (.answer rfl)

theorem every_call_traced_iff_sample :
    ∃ (events : List (RunEvent ℕ Unit String String)) (s : RunState ℕ Unit String String),
      Run (RunStep sampleTools) (RunState.initial sampleTools 1) events s ∧ s.Over ∧
        (Traced sampleTools 1 s ↔
          Run (Guarded (Kept sampleTools) (RunStep sampleTools)) (RunState.initial sampleTools 1) events s) := by
  have run : Run (RunStep sampleTools) (RunState.initial sampleTools 1) _
      ((sampleState.closes 0 .committed).closes 1 .committed) :=
    .snoc (.snoc sampleRun (.commit rfl)) (.commit rfl)
  have finished : ((sampleState.closes 0 .committed).closes 1 .committed).Over := by
    intro call mem
    simp only [sampleState, RunState.initial, RunState.makes, RunState.answers, RunState.closes,
      List.nil_append, List.singleton_append, List.map_cons, List.map_nil, List.mem_cons,
      List.not_mem_nil, or_false] at mem
    cases mem with
    | inl first => exact first ▸ rfl
    | inr second => exact second ▸ rfl
  exact ⟨_, _, run, finished, every_call_traced_iff run finished⟩

/-- A group that fails after a read takes the row of the call with it. -/
theorem failed_group_untraced :
    ¬ ∀ (tools : Toolbox String) (start : ℕ) (events : List (RunEvent ℕ Unit String String))
      (s : RunState ℕ Unit String String),
      Run (RunStep tools) (RunState.initial tools start) events s → s.Over → Traced tools start s := by
  intro h
  have run : Run (RunStep sampleTools) (RunState.initial sampleTools 1) _
      ((sampleState.closes 0 .lost).closes 1 .committed) :=
    .snoc (.snoc sampleRun (.fail (.inl rfl))) (.commit rfl)
  have finished : ((sampleState.closes 0 .lost).closes 1 .committed).Over := by
    intro call mem
    simp only [sampleState, RunState.initial, RunState.makes, RunState.answers, RunState.closes,
      List.nil_append, List.singleton_append, List.map_cons, List.map_nil, List.mem_cons,
      List.not_mem_nil, or_false] at mem
    cases mem with
    | inl first => exact first ▸ rfl
    | inr second => exact second ▸ rfl
  have traced := h _ _ _ _ run finished
  have rows : ((sampleState.closes 0 .lost).closes 1 .committed).rows.length = 1 := by decide
  have calls : ((sampleState.closes 0 .lost).closes 1 .committed).calls.length = 2 := by decide
  have lengths := traced.each_call.length_eq
  rw [List.length_map, List.length_map, rows, calls] at lengths
  cases lengths

end ClientEngagement.Agents.ToolRuntime
