import Mathlib

/-!
# Ordered dictionaries

A finite map that remembers insertion order, with the invariant that no key is bound twice carried
as a field. `set` replaces a binding in place or appends a new one, so `items` lists the bindings in
the order in which their keys first appeared. Two dictionaries are the same map when `get?` agrees;
`Dict.Same` names that relation, and the lemmas about it are what order-independence proofs use.
-/

namespace ClientEngagement

/-- A finite map with its bindings in insertion order. -/
structure Dict (κ : Type*) (ν : Type*) where
  items : List (κ × ν)
  nodup : (items.map Prod.fst).Nodup

namespace Dict

variable {κ ν μ : Type*} [DecidableEq κ]

/-- The dictionary with no binding. -/
def empty : Dict κ ν := ⟨[], List.nodup_nil⟩

/-- The keys in insertion order. -/
def keys (d : Dict κ ν) : List κ := d.items.map Prod.fst

/-- The value bound to a key, if any. -/
def get? (d : Dict κ ν) (k : κ) : Option ν := d.items.lookup k

/-- The value bound to a key, or a default. -/
def getD (d : Dict κ ν) (k : κ) (v : ν) : ν := (d.get? k).getD v

/-- Whether a key is bound. -/
def contains (d : Dict κ ν) (k : κ) : Bool := (d.get? k).isSome

/-- Replaces the first binding of `k`, or appends one. -/
def setItems (k : κ) (v : ν) : List (κ × ν) → List (κ × ν)
  | [] => [(k, v)]
  | (k', v') :: l => if k' = k then (k, v) :: l else (k', v') :: setItems k v l

lemma setItems_nil (k : κ) (v : ν) : setItems k v [] = [(k, v)] := rfl

lemma setItems_cons (k k' : κ) (v v' : ν) (l : List (κ × ν)) :
    setItems k v ((k', v') :: l) = if k' = k then (k, v) :: l else (k', v') :: setItems k v l := rfl

lemma mem_keys_setItems {k : κ} {v : ν} {l : List (κ × ν)} {x : κ} :
    x ∈ (setItems k v l).map Prod.fst ↔ x = k ∨ x ∈ l.map Prod.fst := by
  induction l with
  | nil => simp [setItems_nil]
  | cons b l ih =>
    obtain ⟨k', v'⟩ := b
    by_cases h : k' = k
    · subst h
      simp [setItems_cons]
    · simp only [setItems_cons, if_neg h, List.map_cons, List.mem_cons, ih]
      tauto

lemma nodup_setItems {k : κ} {v : ν} {l : List (κ × ν)} (hl : (l.map Prod.fst).Nodup) :
    ((setItems k v l).map Prod.fst).Nodup := by
  induction l with
  | nil => simp [setItems_nil]
  | cons b l ih =>
    obtain ⟨k', v'⟩ := b
    obtain ⟨hk, hl⟩ := List.nodup_cons.mp hl
    by_cases h : k' = k
    · subst h
      simpa [setItems_cons] using ⟨by simpa using hk, hl⟩
    · simp only [setItems_cons, if_neg h, List.map_cons]
      refine List.nodup_cons.mpr ⟨?_, ih hl⟩
      rw [mem_keys_setItems]
      rintro (e | hm)
      · exact h e
      · exact hk hm

lemma lookup_cons_ite {k x : κ} {v : ν} {l : List (κ × ν)} :
    ((k, v) :: l).lookup x = if x = k then some v else l.lookup x := by
  by_cases h : x = k
  · subst h
    simp
  · have h' : (x == k) = false := by simpa using h
    simp [List.lookup_cons, h', h]

lemma lookup_setItems {k x : κ} {v : ν} {l : List (κ × ν)} :
    (setItems k v l).lookup x = if x = k then some v else l.lookup x := by
  induction l with
  | nil => simp only [setItems_nil, lookup_cons_ite]
  | cons b l ih =>
    obtain ⟨k', v'⟩ := b
    by_cases h : k' = k
    · subst h
      simp only [setItems_cons, if_pos, lookup_cons_ite]
      split_ifs <;> rfl
    · simp only [setItems_cons, if_neg h, lookup_cons_ite, ih]
      by_cases hx : x = k'
      · subst hx
        rw [if_pos rfl, if_neg h, if_pos rfl]
      · rw [if_neg hx, if_neg hx]

/-- Binds `k` to `v`, in place when `k` is bound already. -/
def set (d : Dict κ ν) (k : κ) (v : ν) : Dict κ ν :=
  ⟨setItems k v d.items, nodup_setItems d.nodup⟩

/-- Rewrites the value bound to `k`, starting from a default. -/
def modify (d : Dict κ ν) (k : κ) (v : ν) (f : ν → ν) : Dict κ ν := d.set k (f (d.getD k v))

/-- A dictionary from its bindings; a later binding of the same key wins. -/
def ofList (l : List (κ × ν)) : Dict κ ν := l.foldl (fun d b => d.set b.1 b.2) empty

/-- Drops the binding of `k`. -/
def erase (d : Dict κ ν) (k : κ) : Dict κ ν :=
  ⟨d.items.filter (·.1 ≠ k), d.nodup.sublist (List.filter_sublist.map _)⟩

@[simp] lemma get?_empty (k : κ) : (empty : Dict κ ν).get? k = none := rfl

omit [DecidableEq κ] in
@[simp] lemma keys_empty : (empty : Dict κ ν).keys = [] := rfl

@[simp] lemma get?_set (d : Dict κ ν) (k x : κ) (v : ν) :
    (d.set k v).get? x = if x = k then some v else d.get? x := lookup_setItems

lemma get?_set_self (d : Dict κ ν) (k : κ) (v : ν) : (d.set k v).get? k = some v := by simp

lemma get?_set_ne (d : Dict κ ν) {k x : κ} (v : ν) (h : x ≠ k) :
    (d.set k v).get? x = d.get? x := by simp [h]

@[simp] lemma mem_keys_set (d : Dict κ ν) (k x : κ) (v : ν) :
    x ∈ (d.set k v).keys ↔ x = k ∨ x ∈ d.keys := mem_keys_setItems

@[simp] lemma get?_modify (d : Dict κ ν) (k x : κ) (v : ν) (f : ν → ν) :
    (d.modify k v f).get? x = if x = k then some (f (d.getD k v)) else d.get? x := by
  simp [modify]

lemma mem_items_iff (d : Dict κ ν) {k : κ} {v : ν} : (k, v) ∈ d.items ↔ d.get? k = some v := by
  obtain ⟨l, hl⟩ := d
  simp only [get?]
  induction l with
  | nil => simp
  | cons b l ih =>
    obtain ⟨k', v'⟩ := b
    obtain ⟨hk, hl⟩ := List.nodup_cons.mp hl
    by_cases h : k = k'
    · subst h
      have hno : (k, v) ∉ l := fun hm => hk (List.mem_map.mpr ⟨_, hm, rfl⟩)
      simp [hno, eq_comm]
    · rw [lookup_cons_ite, if_neg h, ← ih hl]
      simp [h]

lemma mem_keys_iff (d : Dict κ ν) {k : κ} : k ∈ d.keys ↔ ∃ v, d.get? k = some v := by
  simp [keys, ← mem_items_iff]

lemma get?_eq_none_iff (d : Dict κ ν) {k : κ} : d.get? k = none ↔ k ∉ d.keys := by
  rw [mem_keys_iff, Option.eq_none_iff_forall_ne_some]
  simp

lemma contains_iff (d : Dict κ ν) {k : κ} : d.contains k = true ↔ k ∈ d.keys := by
  rw [contains, Option.isSome_iff_exists, mem_keys_iff]

omit [DecidableEq κ] in
lemma keys_nodup (d : Dict κ ν) : d.keys.Nodup := d.nodup

@[simp] lemma get?_erase (d : Dict κ ν) (k x : κ) :
    (d.erase k).get? x = if x = k then none else d.get? x := by
  by_cases h : x = k
  · subst h
    rw [if_pos rfl, get?_eq_none_iff]
    simp [keys, erase]
  · rw [if_neg h]
    apply Option.ext
    intro v
    rw [← mem_items_iff, ← mem_items_iff]
    simp [erase, h]

/-- The bindings whose key passes a test. -/
def filterKeys (d : Dict κ ν) (p : κ → Bool) : Dict κ ν :=
  ⟨d.items.filter fun b => p b.1, d.nodup.sublist (List.filter_sublist.map _)⟩

@[simp] lemma get?_filterKeys (d : Dict κ ν) (p : κ → Bool) (k : κ) :
    (d.filterKeys p).get? k = if p k then d.get? k else none := by
  apply Option.ext
  intro v
  rw [← mem_items_iff, filterKeys, List.mem_filter, mem_items_iff]
  cases p k with
  | true => simp
  | false => simp

lemma mem_keys_filterKeys (d : Dict κ ν) (p : κ → Bool) {k : κ} :
    k ∈ (d.filterKeys p).keys ↔ k ∈ d.keys ∧ p k = true := by
  rw [mem_keys_iff, mem_keys_iff, get?_filterKeys]
  cases p k with
  | true => simp
  | false => simp

omit [DecidableEq κ] in
/-- A test all keys pass leaves out nothing. -/
lemma filterKeys_all {d : Dict κ ν} {p : κ → Bool} (all : ∀ k ∈ d.keys, p k = true) : d.filterKeys p = d := by
  obtain ⟨items, nodup⟩ := d
  have same : items.filter (fun b => p b.1) = items :=
    List.filter_eq_self.mpr fun b mem => all b.1 (List.mem_map_of_mem mem)
  simp only [filterKeys, same]

/-- The same keys, each with its value rewritten from the two. -/
def mapEntries (f : κ → ν → μ) (d : Dict κ ν) : Dict κ μ where
  items := d.items.map fun b => (b.1, f b.1 b.2)
  nodup := by
    rw [List.map_map]
    exact d.nodup

@[simp] lemma get?_mapEntries (f : κ → ν → μ) (d : Dict κ ν) (k : κ) :
    (d.mapEntries f).get? k = (d.get? k).map (f k) := by
  apply Option.ext
  intro v
  rw [← mem_items_iff, mapEntries, List.mem_map, Option.map_eq_some_iff]
  constructor
  · rintro ⟨⟨key, value⟩, mem, same⟩
    cases same
    exact ⟨value, (mem_items_iff d).mp mem, rfl⟩
  · rintro ⟨value, found, rfl⟩
    exact ⟨(k, value), (mem_items_iff d).mpr found, rfl⟩

/-- The same keys, each with its value rewritten. -/
def mapValues (f : ν → μ) (d : Dict κ ν) : Dict κ μ where
  items := d.items.map fun b => (b.1, f b.2)
  nodup := by
    rw [List.map_map]
    exact d.nodup

@[simp] lemma get?_mapValues (f : ν → μ) (d : Dict κ ν) (k : κ) :
    (d.mapValues f).get? k = (d.get? k).map f := by
  apply Option.ext
  intro v
  rw [← mem_items_iff, mapValues, List.mem_map, Option.map_eq_some_iff]
  constructor
  · intro ⟨b, mem, same⟩
    cases same
    exact ⟨b.2, d.mem_items_iff.mp mem, rfl⟩
  · intro ⟨u, bound, same⟩
    exact ⟨(k, u), d.mem_items_iff.mpr bound, by rw [same]⟩

/-- Two dictionaries are the same map. -/
def Same (d e : Dict κ ν) : Prop := ∀ k, d.get? k = e.get? k

lemma Same.refl (d : Dict κ ν) : d.Same d := fun _ => rfl

lemma Same.symm {d e : Dict κ ν} (h : d.Same e) : e.Same d := fun k => (h k).symm

lemma Same.trans {d e f : Dict κ ν} (h : d.Same e) (h' : e.Same f) : d.Same f :=
  fun k => (h k).trans (h' k)

lemma Same.items_perm {d e : Dict κ ν} (h : d.Same e) : d.items.Perm e.items := by
  rw [List.perm_ext_iff_of_nodup (d.nodup.of_map _) (e.nodup.of_map _)]
  rintro ⟨k, v⟩
  rw [mem_items_iff, mem_items_iff, h k]

lemma Same.keys_perm {d e : Dict κ ν} (h : d.Same e) : d.keys.Perm e.keys := h.items_perm.map _

omit [DecidableEq κ] in
lemma ext_items {d e : Dict κ ν} (h : d.items = e.items) : d = e := by
  cases d with
  | mk items nodup =>
    cases e with
    | mk items' nodup' =>
      cases h
      rfl

/-- The same map with its keys in the same order is the same dictionary. -/
lemma eq_of_same {d e : Dict κ ν} (hk : d.keys = e.keys) (h : d.Same e) : d = e := by
  -- position by position, the keys agree and so do the values bound to them
  apply ext_items
  have len : d.items.length = e.items.length := by
    have same := congrArg List.length hk
    rwa [keys, keys, List.length_map, List.length_map] at same
  apply List.ext_getElem len
  intro i hi hi'
  have fst_eq : (d.items[i]).1 = (e.items[i]).1 := by
    have hk' : d.items.map Prod.fst = e.items.map Prod.fst := hk
    have := congrArg (fun l => l[i]?) hk'
    simpa [hi, hi'] using this
  have hd : d.get? (d.items[i]).1 = some (d.items[i]).2 :=
    d.mem_items_iff.mp (List.getElem_mem hi)
  have he : e.get? (e.items[i]).1 = some (e.items[i]).2 :=
    e.mem_items_iff.mp (List.getElem_mem hi')
  rw [h, fst_eq, he] at hd
  exact Prod.ext fst_eq (Option.some.inj hd).symm

lemma setItems_keys_of_mem {k : κ} {v : ν} {l : List (κ × ν)} (h : k ∈ l.map Prod.fst) :
    (setItems k v l).map Prod.fst = l.map Prod.fst := by
  induction l with
  | nil => cases h
  | cons b l ih =>
    obtain ⟨k', v'⟩ := b
    rw [setItems_cons]
    split
    · rename_i same
      rw [List.map_cons, List.map_cons, same]
    · rename_i other
      rw [List.map_cons, List.map_cons, ih ((List.mem_cons.mp h).resolve_left (Ne.symm other))]

/-- Binding a key again keeps the order of the keys. -/
lemma keys_set_of_mem {d : Dict κ ν} {k : κ} {v : ν} (h : k ∈ d.keys) : (d.set k v).keys = d.keys :=
  setItems_keys_of_mem h

lemma filterMap_setItems {α : Type*} {f : κ × ν → Option α} {k : κ} {v : ν}
    {l : List (κ × ν)} (blind : ∀ u, f (k, u) = none) :
    (setItems k v l).filterMap f = l.filterMap f := by
  induction l with
  | nil => simp [setItems_nil, blind]
  | cons b l ih =>
    obtain ⟨k', v'⟩ := b
    rw [setItems_cons]
    split
    · rename_i same
      subst same
      rw [List.filterMap_cons, List.filterMap_cons, blind, blind]
    · rw [List.filterMap_cons, List.filterMap_cons, ih]

/-- Binding a key changes no list of what is read at other keys. -/
lemma filterMap_set {α : Type*} (d : Dict κ ν) {f : κ × ν → Option α} {k : κ} {v : ν}
    (blind : ∀ u, f (k, u) = none) : (d.set k v).items.filterMap f = d.items.filterMap f :=
  filterMap_setItems blind

/-! ## Dictionaries built by a loop -/

lemma setItems_of_not_mem {k : κ} {v : ν} {l : List (κ × ν)} (h : k ∉ l.map Prod.fst) :
    setItems k v l = l ++ [(k, v)] := by
  induction l with
  | nil => rfl
  | cons b l ih =>
    obtain ⟨k', v'⟩ := b
    simp only [List.map_cons, List.mem_cons, not_or] at h
    rw [setItems_cons, if_neg (Ne.symm h.1), ih h.2, List.cons_append]

lemma items_foldl_set (l : List (κ × ν)) (d : Dict κ ν)
    (hnd : ((d.items ++ l).map Prod.fst).Nodup) :
    (l.foldl (fun d b => d.set b.1 b.2) d).items = d.items ++ l := by
  induction l generalizing d with
  | nil => simp
  | cons b l ih =>
    have hb : b.1 ∉ d.items.map Prod.fst := by
      rw [List.map_append, List.nodup_append] at hnd
      intro hm
      exact hnd.2.2 b.1 hm b.1 (by simp) rfl
    have e : (d.set b.1 b.2).items = d.items ++ [b] := setItems_of_not_mem hb
    rw [List.foldl_cons, ih _ (by rw [e]; simpa using hnd), e]
    simp

/-- The last of the bindings set for a key stands. -/
lemma get?_foldl_set (l : List (κ × ν)) (d : Dict κ ν) (k : κ) :
    (l.foldl (fun d b => d.set b.1 b.2) d).get? k =
      (((l.filter fun b => b.1 = k).getLast?).map Prod.snd).or (d.get? k) := by
  induction l using List.reverseRecOn with
  | nil => rfl
  | append_singleton l b ih =>
    rw [List.foldl_append, List.foldl_cons, List.foldl_nil, get?_set, List.filter_append]
    by_cases same : k = b.1
    · subst same
      simp
    · rw [if_neg same, ih]
      simp [Ne.symm same]

/-- Bindings that agree on a key set it to that. -/
lemma get?_foldl_set_of_agree {l : List (κ × ν)} {d : Dict κ ν} {k : κ} {v : ν} (mem : (k, v) ∈ l)
    (agree : ∀ b ∈ l, b.1 = k → b.2 = v) :
    (l.foldl (fun d b => d.set b.1 b.2) d).get? k = some v := by
  rw [get?_foldl_set]
  cases last : (l.filter fun b => b.1 = k).getLast? with
  | none =>
    have none_left := List.getLast?_eq_none_iff.mp last
    exact absurd (List.mem_filter.mpr ⟨mem, decide_eq_true rfl⟩) (none_left ▸ List.not_mem_nil)
  | some b =>
    obtain ⟨found, key⟩ := List.mem_filter.mp (List.mem_of_getLast? last)
    rw [Option.map_some, agree b found (of_decide_eq_true key)]
    rfl

lemma get?_foldl_set_of_mem {l : List (κ × ν)} {d : Dict κ ν} {k : κ} {v : ν}
    (distinct : (l.map Prod.fst).Nodup) (mem : (k, v) ∈ l) :
    (l.foldl (fun d b => d.set b.1 b.2) d).get? k = some v := by
  apply get?_foldl_set_of_agree mem
  intro b found key
  rw [List.inj_on_of_nodup_map distinct found mem key]

lemma get?_foldl_set_of_not_mem {l : List (κ × ν)} {d : Dict κ ν} {k : κ}
    (absent : k ∉ l.map Prod.fst) : (l.foldl (fun d b => d.set b.1 b.2) d).get? k = d.get? k := by
  have none_left : l.filter (fun b => b.1 = k) = [] := by
    rw [List.filter_eq_nil_iff]
    intro b mem key
    exact absent (List.mem_map.mpr ⟨b, mem, of_decide_eq_true key⟩)
  rw [get?_foldl_set, none_left]
  rfl

/-- Each key of a list bound to what is made of it. -/
lemma get?_ofList_map (f : κ → ν) (l : List κ) (k : κ) :
    (ofList (l.map fun key => (key, f key))).get? k = if k ∈ l then some (f k) else none := by
  split_ifs with mem
  · refine get?_foldl_set_of_agree (List.mem_map.mpr ⟨k, mem, rfl⟩) fun b among same => ?_
    obtain ⟨key, _, rfl⟩ := List.mem_map.mp among
    exact congrArg f same
  · have absent : k ∉ (l.map fun key => (key, f key)).map Prod.fst := by
      rw [List.map_map]
      simpa using mem
    exact get?_foldl_set_of_not_mem absent

/-- A list of bindings with distinct keys is kept as it is. -/
lemma items_ofList {l : List (κ × ν)} (hnd : (l.map Prod.fst).Nodup) : (ofList l).items = l := by
  exact items_foldl_set l empty hnd

lemma keys_ofList {l : List (κ × ν)} (hnd : (l.map Prod.fst).Nodup) :
    (ofList l).keys = l.map Prod.fst := by
  rw [keys, items_ofList hnd]

lemma get?_ofList {l : List (κ × ν)} (hnd : (l.map Prod.fst).Nodup) {k : κ} {v : ν} :
    (ofList l).get? k = some v ↔ (k, v) ∈ l := by
  rw [← mem_items_iff, items_ofList hnd]

/-- A binding of a dictionary was listed, also when keys repeat. -/
lemma mem_of_get?_ofList {l : List (κ × ν)} {k : κ} {v : ν} (h : (ofList l).get? k = some v) :
    (k, v) ∈ l := by
  have key : ∀ (l : List (κ × ν)) (d : Dict κ ν),
      (l.foldl (fun d b => d.set b.1 b.2) d).get? k = some v →
        (k, v) ∈ l ∨ d.get? k = some v := by
    intro l
    induction l with
    | nil => exact fun d h => .inr h
    | cons b l ih =>
      intro d h
      rcases ih _ h with hm | hm
      · exact .inl (List.mem_cons_of_mem _ hm)
      · rw [get?_set] at hm
        split at hm
        · rename_i e
          cases hm
          subst e
          exact .inl (List.mem_cons_self ..)
        · exact .inr hm
  rcases key l empty h with hm | hm
  · exact hm
  · cases hm

/-! ## Grouping -/

/-- The elements of a list by key, each group in list order, the groups in order of appearance. -/
def groupBy {α : Type*} (f : α → κ) (l : List α) : Dict κ (List α) :=
  l.foldl (fun d a => d.modify (f a) [] (· ++ [a])) empty

lemma get?_groupBy {α : Type*} (f : α → κ) (l : List α) (k : κ) :
    (groupBy f l).get? k = if l.filter (f · = k) = [] then none else some (l.filter (f · = k)) := by
  have key : ∀ (l : List α) (d : Dict κ (List α)),
      (l.foldl (fun d a => d.modify (f a) [] (· ++ [a])) d).get? k =
        if l.filter (f · = k) = [] then d.get? k else some (d.getD k [] ++ l.filter (f · = k)) := by
    intro l
    induction l with
    | nil => simp
    | cons a l ih =>
      intro d
      rw [List.foldl_cons, ih]
      cases eq_or_ne (f a) k with
      | inl e =>
        subst e
        simp [getD]
      | inr ne => simp [getD, ne, ne.symm]
  exact key l empty

/-- Every group is a non-empty part of the list. -/
lemma mem_items_groupBy {α : Type*} {f : α → κ} {l : List α} {k : κ} {g : List α} :
    (k, g) ∈ (groupBy f l).items ↔ g = l.filter (f · = k) ∧ g ≠ [] := by
  rw [mem_items_iff, get?_groupBy]
  split_ifs with h
  · simp [h]
  · constructor
    · intro e
      cases e
      exact ⟨rfl, h⟩
    · intro e
      rw [e.1]

end Dict

end ClientEngagement
