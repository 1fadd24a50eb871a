import ClientEngagement.Lib.Dict

/-!
# Tallies of tagged members

Rows give a member a tag, and a label stands for several tags. Counting the members of each tag and adding
the counts up by label counts a member once for each of its tags (`tallyOf`), not once (`membersOf`); the
two are the same exactly where no member has two tags of one label (`card_membersOf_eq_iff`).
-/

namespace ClientEngagement

variable {ρ κ ν μ : Type*} [DecidableEq μ]

/-- The tagged members under a label. -/
def under (label : ν → μ) (pairs : Finset (κ × ν)) (l : μ) : Finset (κ × ν) :=
  pairs.filter fun pair => label pair.2 = l

def tallyOf (label : ν → μ) (pairs : Finset (κ × ν)) (l : μ) : ℕ := (under label pairs l).card

/-- No member has two tags of a label. -/
def SinglyTagged (label : ν → μ) (pairs : Finset (κ × ν)) (l : μ) : Prop :=
  ∀ member tag tag', (member, tag) ∈ pairs → (member, tag') ∈ pairs → label tag = l → label tag' = l →
    tag = tag'

variable {label : ν → μ} {pairs : Finset (κ × ν)} {l : μ}

lemma mem_under {pair : κ × ν} : pair ∈ under label pairs l ↔ pair ∈ pairs ∧ label pair.2 = l :=
  Finset.mem_filter

/-- The tallies of some labels add up to the tagged members under them. -/
lemma sum_tallies {labels : List μ} (nodup : labels.Nodup) (p : μ → Bool)
    (all : ∀ pair ∈ pairs, label pair.2 ∈ labels) :
    ((labels.filter p).map (tallyOf label pairs)).sum =
      (pairs.filter fun pair => p (label pair.2) = true).card := by
  rw [← List.sum_toFinset _ (nodup.filter p)]
  have lands : ∀ pair ∈ pairs.filter (fun pair => p (label pair.2) = true),
      label pair.2 ∈ (labels.filter p).toFinset := by
    intro pair mem
    obtain ⟨mem, kept⟩ := Finset.mem_filter.mp mem
    rw [List.mem_toFinset, List.mem_filter]
    exact ⟨all pair mem, kept⟩
  rw [Finset.card_eq_sum_card_fiberwise lands]
  refine Finset.sum_congr rfl fun l mem => ?_
  obtain ⟨-, kept⟩ := List.mem_filter.mp (List.mem_toFinset.mp mem)
  rw [tallyOf]
  congr 1
  ext pair
  rw [mem_under, Finset.mem_filter, Finset.mem_filter]
  constructor
  · rintro ⟨paired, rfl⟩
    exact ⟨⟨paired, kept⟩, rfl⟩
  · rintro ⟨⟨paired, -⟩, named⟩
    exact ⟨paired, named⟩

/-- Counts added up by label. -/
lemma get?_foldl_modify_add (groups : List (ν × ℕ)) (d : Dict μ ℕ) (l : μ) :
    (groups.foldl (fun d group => d.modify (label group.1) 0 (· + group.2)) d).get? l =
      if groups.filter (fun group => label group.1 = l) = [] then d.get? l
      else some (d.getD l 0 + ((groups.filter fun group => label group.1 = l).map Prod.snd).sum) := by
  induction groups generalizing d with
  | nil => simp
  | cons group groups ih =>
    rw [List.foldl_cons, ih]
    by_cases named : label group.1 = l
    · subst named
      have kept : (group :: groups).filter (fun other => label other.1 = label group.1) =
          group :: groups.filter fun other => label other.1 = label group.1 :=
        List.filter_cons_of_pos (decide_eq_true rfl)
      rw [kept, if_neg (List.cons_ne_nil _ _)]
      split
      · rename_i none
        rw [none, Dict.get?_modify, if_pos rfl]
        simp
      · rw [Dict.getD, Dict.get?_modify, if_pos rfl]
        simp [Nat.add_assoc]
    · have passed : (group :: groups).filter (fun other => label other.1 = l) =
          groups.filter fun other => label other.1 = l :=
        List.filter_cons_of_neg (by simpa using named)
      rw [passed, Dict.getD, Dict.get?_modify, if_neg (Ne.symm named), Dict.getD]

variable [DecidableEq κ]

/-- The members under a label, each once. -/
def membersOf (label : ν → μ) (pairs : Finset (κ × ν)) (l : μ) : Finset κ :=
  (under label pairs l).image Prod.fst

lemma card_membersOf_eq_iff :
    (membersOf label pairs l).card = tallyOf label pairs l ↔ SinglyTagged label pairs l := by
  rw [membersOf, tallyOf, Finset.card_image_iff]
  constructor
  · intro inj member tag tag' mem mem' named named'
    have same := inj (mem_under.mpr ⟨mem, named⟩) (mem_under.mpr ⟨mem', named'⟩) rfl
    exact congrArg Prod.snd same
  · rintro single ⟨member, tag⟩ mem ⟨_, tag'⟩ mem' rfl
    obtain ⟨mem, named⟩ := mem_under.mp mem
    obtain ⟨mem', named'⟩ := mem_under.mp mem'
    rw [single member tag tag' mem mem' named named']

variable [DecidableEq ν]

/-- The members and tags that occur together. -/
def tagged (member : ρ → κ) (tag : ρ → ν) (rows : List ρ) : Finset (κ × ν) :=
  (rows.map fun row => (member row, tag row)).toFinset

variable {member : ρ → κ} {tag : ρ → ν} {rows : List ρ}

lemma mem_tagged {pair : κ × ν} :
    pair ∈ tagged member tag rows ↔ ∃ row ∈ rows, (member row, tag row) = pair := by
  rw [tagged, List.mem_toFinset, List.mem_map]

/-- The members of one tag, as they are counted row by row. -/
lemma card_tag (v : ν) : ((rows.filter fun row => tag row = v).map member).dedup.length =
    ((tagged member tag rows).filter fun pair => pair.2 = v).card := by
  rw [← List.card_toFinset]
  have image : (tagged member tag rows).filter (fun pair => pair.2 = v) =
      ((rows.filter fun row => tag row = v).map member).toFinset.image fun m => (m, v) := by
    ext ⟨m, t⟩
    rw [Finset.mem_filter, mem_tagged, Finset.mem_image]
    constructor
    · rintro ⟨⟨row, mem, eq⟩, rfl⟩
      cases eq
      refine ⟨member row, List.mem_toFinset.mpr (List.mem_map.mpr ⟨row, ?_, rfl⟩), rfl⟩
      exact List.mem_filter.mpr ⟨mem, decide_eq_true rfl⟩
    · rintro ⟨m, mem, eq⟩
      cases eq
      obtain ⟨row, kept, rfl⟩ := List.mem_map.mp (List.mem_toFinset.mp mem)
      obtain ⟨mem, isTag⟩ := List.mem_filter.mp kept
      exact ⟨⟨row, mem, by rw [of_decide_eq_true isTag]⟩, rfl⟩
  rw [image, Finset.card_image_of_injective _ fun a b eq => congrArg Prod.fst eq]

/-- The counts of the tags of a label add up to its tally. -/
lemma sum_tags (l : μ) :
    (((rows.map tag).dedup.filter fun v => label v = l).map fun v =>
      ((rows.filter fun row => tag row = v).map member).dedup.length).sum =
      tallyOf label (tagged member tag rows) l := by
  have nodup : ((rows.map tag).dedup.filter fun v => label v = l).Nodup := (List.nodup_dedup _).filter _
  rw [← List.sum_toFinset _ nodup, tallyOf]
  have lands : ∀ pair ∈ under label (tagged member tag rows) l,
      pair.2 ∈ ((rows.map tag).dedup.filter fun v => label v = l).toFinset := by
    intro pair mem
    obtain ⟨mem, named⟩ := mem_under.mp mem
    obtain ⟨row, listed, rfl⟩ := mem_tagged.mp mem
    rw [List.mem_toFinset, List.mem_filter, List.mem_dedup]
    exact ⟨List.mem_map_of_mem listed, decide_eq_true named⟩
  rw [Finset.card_eq_sum_card_fiberwise lands]
  refine Finset.sum_congr rfl fun v mem => ?_
  obtain ⟨-, named⟩ := List.mem_filter.mp (List.mem_toFinset.mp mem)
  rw [card_tag]
  congr 1
  ext pair
  rw [Finset.mem_filter, Finset.mem_filter, mem_under]
  constructor
  · rintro ⟨paired, rfl⟩
    exact ⟨⟨paired, of_decide_eq_true named⟩, rfl⟩
  · rintro ⟨⟨paired, -⟩, isTag⟩
    exact ⟨paired, isTag⟩

end ClientEngagement
