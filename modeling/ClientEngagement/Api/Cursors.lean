import ClientEngagement.Api.Pagination
import ClientEngagement.Lib.PythonJson

/-!
# Cursors a client sends

The decoders of cursors and the lists that take them, on every text a client may send. A text that is no
list of the right length, or whose date and time cannot be read, is refused (`InvalidCursor`). The types
of the other elements are not looked at: a decoder returns what it finds (`Decodes`), and the list that
compares it with its ids fails with another exception (`Answers`, `cursors_answered`).
-/

namespace ClientEngagement.Api.Cursors
open PythonJson

/-- An id of a table: an integer of 64 bits. -/
abbrev BigInt := {n : ℤ // -2 ^ 63 ≤ n ∧ n < 2 ^ 63}

/-- How a list compares its ids with the one it goes on from; its order is the same. -/
inductive Sense where
  | greater
  | less

/-- What Python, its libraries and the database do for the code. -/
structure Platform where
  /-- How deep `json.loads` can go. -/
  room : ℕ
  fromisoformat : List Point → Option DateTime
  /-- `int` of a text and of the float of a literal. -/
  intOfText : List Point → Option ℤ
  intOfFloat : List Char → Option ℤ
  /-- The instant that the database takes a date and time for. -/
  instant : DateTime → ℤ
  /-- A column of ids compared with a value; none where the statement is refused. -/
  compare : Sense → PyValue → Option (BigInt → Bool)

inductive ListError where
  | invalidCursor (cursor : List Point)
  | campaignNotFound (campaignId : BigInt)
  /-- `int` of what is no integer. -/
  | notAnInteger
  | refusedStatement
  /-- An integer of too many digits to be written. -/
  | tooManyDigits

/-! ## Encoding -/

/-- The list as JSON, in Base64. -/
def encodePayload (items : List Item) : Option (List Point) :=
  (dumps items).map fun text => (Base64.encode (String.ofList text).toUTF8.data.toList).map .ofChar

def isoformat (createdAt : DateTime) : List Point := createdAt.1.isoformat.map .ofChar

def encodeCursor (createdAt : DateTime) (rowId : List Point) : Option (List Point) :=
  encodePayload [.str (isoformat createdAt), .str rowId]

def encodeIdCursor (rowId : ℤ) : Option (List Point) := encodePayload [.int rowId]

def encodeRankedCursor (rank : ℤ) (createdAt : DateTime) (rowId : List Point) : Option (List Point) :=
  encodePayload [.int rank, .str (isoformat createdAt), .str rowId]

def encodePairCursor (a b : ℤ) : Option (List Point) := encodePayload [.int a, .int b]

/-! ## Decoding -/

section Decoders

variable (P : Platform)

/-- What the cursor's JSON is unpacked into. -/
def unpacked (cursor : List Point) : Option (List PyValue) :=
  (toChars? cursor).bind fun chars => (Base64.decode chars).bind fun bytes =>
    (String.fromUTF8? ⟨bytes.toArray⟩).bind fun text => (loads P.room text.toList).bind PyValue.elements

/-- `datetime.fromisoformat`, which takes texts only. -/
def readCreatedAt : PyValue → Option DateTime
  | .str text => P.fromisoformat text
  | _ => none

def decodeCursor (cursor : List Point) : Except ListError (DateTime × PyValue) :=
  match unpacked P cursor with
  | some [createdAtRaw, rowId] =>
    match readCreatedAt P createdAtRaw with
    | some createdAt => .ok (createdAt, rowId)
    | none => .error (.invalidCursor cursor)
  | _ => .error (.invalidCursor cursor)

def decodeIdCursor (cursor : List Point) : Except ListError PyValue :=
  match unpacked P cursor with
  | some [rowId] => .ok rowId
  | _ => .error (.invalidCursor cursor)

def decodeRankedCursor (cursor : List Point) : Except ListError (PyValue × DateTime × PyValue) :=
  match unpacked P cursor with
  | some [rank, createdAtRaw, rowId] =>
    match readCreatedAt P createdAtRaw with
    | some createdAt => .ok (rank, createdAt, rowId)
    | none => .error (.invalidCursor cursor)
  | _ => .error (.invalidCursor cursor)

def decodePairCursor (cursor : List Point) : Except ListError (PyValue × PyValue) :=
  match unpacked P cursor with
  | some [a, b] => .ok (a, b)
  | _ => .error (.invalidCursor cursor)

end Decoders

/-! ## Lists -/

structure Campaign (κ : Type) where
  campaignId : BigInt
  columns : κ

structure Enrollment (κ : Type) where
  enrollmentId : BigInt
  campaignId : BigInt
  columns : κ

/-- A touch with the campaign of its enrollment. -/
structure TouchLog (κ : Type) where
  touchId : BigInt
  campaignId : BigInt
  sentAt : Option DateTime
  columns : κ

structure AgentProposal (κ : Type) where
  proposalId : BigInt
  columns : κ

structure AgentInsight (κ : Type) where
  insightId : BigInt
  columns : κ

structure Session (κ : Type) where
  campaigns : List (Campaign κ)
  enrollments : List (Enrollment κ)
  touches : List (TouchLog κ)
  proposals : List (AgentProposal κ)
  insights : List (AgentInsight κ)

variable {κ α ω : Type} [LinearOrder ω] (P : Platform)

/-- `order_by`, descending where the ids are compared as less. -/
def orderBy (sense : Sense) (key : α → ω) (rows : List α) : List α :=
  match sense with
  | .greater => sortBy key rows
  | .less => sortBy (fun row => OrderDual.toDual (key row)) rows

/-- The first of the ordered rows, and the cursor of the last where there are more. -/
def firstPage (encode : α → Option (List Point)) (limit : ℤ) (ordered : List α) :
    Except ListError (List α × Option (List Point)) :=
  let limit := clampLimit limit
  let rows := ordered.take (limit + 1)
  if limit < rows.length then
    match (rows.take limit).getLast?.bind encode with
    | some nextCursor => .ok (rows.take limit, some nextCursor)
    | none => .error .tooManyDigits
  else .ok (rows, none)

/-- The ids past the cursor's. -/
def pastId (sense : Sense) : Option (List Point) → Except ListError (BigInt → Bool)
  | none => .ok fun _ => true
  | some cursor =>
    match decodeIdCursor P cursor with
    | .ok afterId =>
      match P.compare sense afterId with
      | some past => .ok past
      | none => .error .refusedStatement
    | .error e => .error e

/-- A list ordered by its ids. -/
def listById (sense : Sense) (key : α → BigInt) (rows : List α) (cursor : Option (List Point)) (limit : ℤ) :
    Except ListError (List α × Option (List Point)) :=
  match pastId P sense cursor with
  | .ok past =>
    firstPage (fun row => encodeIdCursor (key row)) limit
      (orderBy sense key (rows.filter fun row => past (key row)))
  | .error e => .error e

/-- `session.get(Campaign, campaign_id)` finds a row. -/
def Found (session : Session κ) (campaignId : BigInt) : Prop :=
  campaignId ∈ session.campaigns.map Campaign.campaignId

instance (session : Session κ) (campaignId : BigInt) : Decidable (Found session campaignId) :=
  inferInstanceAs (Decidable (_ ∈ _))

def listCampaignEnrollments (session : Session κ) (campaignId : BigInt) (cursor : Option (List Point)) (limit : ℤ) :
    Except ListError (List (Enrollment κ) × Option (List Point)) :=
  if Found session campaignId then
    listById P .greater Enrollment.enrollmentId
      (session.enrollments.filter fun row => decide (row.campaignId = campaignId)) cursor limit
  else .error (.campaignNotFound campaignId)

/-- `wanted` are the filters of the list. -/
def listCampaigns (session : Session κ) (wanted : Campaign κ → Bool) (cursor : Option (List Point)) (limit : ℤ) :
    Except ListError (List (Campaign κ) × Option (List Point)) :=
  listById P .greater Campaign.campaignId (session.campaigns.filter wanted) cursor limit

def listProposals (session : Session κ) (wanted : AgentProposal κ → Bool) (cursor : Option (List Point)) (limit : ℤ) :
    Except ListError (List (AgentProposal κ) × Option (List Point)) :=
  listById P .less AgentProposal.proposalId (session.proposals.filter wanted) cursor limit

def listInsights (session : Session κ) (wanted : AgentInsight κ → Bool) (cursor : Option (List Point)) (limit : ℤ) :
    Except ListError (List (AgentInsight κ) × Option (List Point)) :=
  listById P .less AgentInsight.insightId (session.insights.filter wanted) cursor limit

/-- `int` of a value. -/
def toInt : PyValue → Option ℤ
  | .int n => some n
  | .bool value => some (if value then 1 else 0)
  | .float literal => P.intOfFloat literal
  | .str text => P.intOfText text
  | _ => none

/-- The keys before the cursor's. -/
def beforeKey : Option (List Point) → Except ListError (DateTime × BigInt → Bool)
  | none => .ok fun _ => true
  | some cursor =>
    match decodeCursor P cursor with
    | .ok (afterSentAt, afterId) =>
      match toInt P afterId with
      | some n =>
        match P.compare .less (.int n) with
        | some less => .ok fun (sentAt, touchId) =>
          decide (P.instant sentAt < P.instant afterSentAt) ||
            (decide (P.instant sentAt = P.instant afterSentAt) && less touchId)
        | none => .error .refusedStatement
      | none => .error .notAnInteger
    | .error e => .error e

/-- The touches that were sent, each with its time. -/
def sentOf (session : Session κ) (campaignId : BigInt) : List (DateTime × TouchLog κ) :=
  (session.touches.filter fun row => decide (row.campaignId = campaignId)).filterMap fun row =>
    row.sentAt.map fun sentAt => (sentAt, row)

def listSentTouches (session : Session κ) (campaignId : BigInt) (cursor : Option (List Point)) (limit : ℤ) :
    Except ListError (List (DateTime × TouchLog κ) × Option (List Point)) :=
  if Found session campaignId then
    match beforeKey P cursor with
    | .ok before =>
      firstPage (fun row => encodeCursor row.1 ((writeInt row.2.touchId).map .ofChar)) limit
        (orderBy .less (fun row => toLex (P.instant row.1, row.2.touchId))
          ((sentOf session campaignId).filter fun row => before (row.1, row.2.touchId)))
    | .error e => .error e
  else .error (.campaignNotFound campaignId)

/-! ## What is promised -/

/-- What the code rests on: nesting is read at all, what `isoformat` wrote is read back, ids are compared with
the integers that are in their range, and the statement is refused for anything else that is no float. -/
structure Platform.Documented : Prop where
  room_pos : 0 < P.room
  reads_isoformat : ∀ createdAt, P.fromisoformat (isoformat createdAt) = some createdAt
  integers : ∀ sense (n : BigInt), P.compare sense (.int n) = some fun id =>
    match sense with
    | .greater => decide (n.1 < id.1)
    | .less => decide (id.1 < n.1)
  outside : ∀ sense n, ¬(-2 ^ 63 ≤ n ∧ n < 2 ^ 63) → P.compare sense (.int n) = none
  others : ∀ sense value, (∀ n, value ≠ .int n) → (∀ literal, value ≠ .float literal) → P.compare sense value = none

def IsInt (value : PyValue) : Prop := ∃ n, value = .int n

def IsStr (value : PyValue) : Prop := ∃ text, value = .str text

/-- The cursor is refused, or decoded to a key of the right types. -/
def Decodes {γ : Type} (Typed : γ → Prop) (cursor : List Point) (result : Except ListError γ) : Prop :=
  result = .error (.invalidCursor cursor) ∨ ∃ key, result = .ok key ∧ Typed key

/-- A page is returned, or the cursor is refused. -/
def Answers {β : Type} (cursor : List Point) (result : Except ListError β) : Prop :=
  (∃ page, result = .ok page) ∨ result = .error (.invalidCursor cursor)

/-- A date and time that can be read. -/
def Dated (createdAt : PyValue) : Prop := (readCreatedAt P createdAt).isSome

/-- An integer in the range of the ids, or a float that the database compares. -/
inductive Comparable (sense : Sense) : PyValue → Prop where
  | int (n : BigInt) : Comparable sense (.int n)
  | float (literal : List Char) (compared : (P.compare sense (.float literal)).isSome) : Comparable sense (.float literal)

/-! ## Decoders -/

variable {P} {cursor : List Point}

section Decoding

variable (P) (cursor)

lemma decodeCursor_cases :
    (∃ createdAtRaw rowId createdAt, unpacked P cursor = some [createdAtRaw, rowId] ∧
      readCreatedAt P createdAtRaw = some createdAt ∧ decodeCursor P cursor = .ok (createdAt, rowId)) ∨
    ((∀ createdAtRaw rowId, unpacked P cursor = some [createdAtRaw, rowId] → ¬Dated P createdAtRaw) ∧
      decodeCursor P cursor = .error (.invalidCursor cursor)) := by
  rw [decodeCursor]
  split
  next createdAtRaw rowId parts =>
    cases read : readCreatedAt P createdAtRaw with
    | some createdAt => exact .inl ⟨createdAtRaw, rowId, createdAt, parts, read, rfl⟩
    | none =>
      refine .inr ⟨fun raw row same dated => ?_, rfl⟩
      obtain ⟨rfl, _⟩ := List.cons.inj (Option.some_inj.mp (parts.symm.trans same))
      rw [Dated, read] at dated
      cases dated
  next other => exact .inr ⟨fun raw row same _ => other raw row same, rfl⟩

lemma decodeRankedCursor_cases :
    (∃ rank createdAtRaw rowId createdAt, unpacked P cursor = some [rank, createdAtRaw, rowId] ∧
      readCreatedAt P createdAtRaw = some createdAt ∧
      decodeRankedCursor P cursor = .ok (rank, createdAt, rowId)) ∨
    ((∀ rank createdAtRaw rowId, unpacked P cursor = some [rank, createdAtRaw, rowId] → ¬Dated P createdAtRaw) ∧
      decodeRankedCursor P cursor = .error (.invalidCursor cursor)) := by
  rw [decodeRankedCursor]
  split
  next rank createdAtRaw rowId parts =>
    cases read : readCreatedAt P createdAtRaw with
    | some createdAt => exact .inl ⟨rank, createdAtRaw, rowId, createdAt, parts, read, rfl⟩
    | none =>
      refine .inr ⟨fun rank raw row same dated => ?_, rfl⟩
      obtain ⟨rfl, _⟩ := List.cons.inj (List.cons.inj (Option.some_inj.mp (parts.symm.trans same))).2
      rw [Dated, read] at dated
      cases dated
  next other => exact .inr ⟨fun rank raw row same _ => other rank raw row same, rfl⟩

lemma decodeIdCursor_cases :
    (∃ rowId, unpacked P cursor = some [rowId] ∧ decodeIdCursor P cursor = .ok rowId) ∨
    ((∀ rowId, unpacked P cursor ≠ some [rowId]) ∧
      decodeIdCursor P cursor = .error (.invalidCursor cursor)) := by
  rw [decodeIdCursor]
  split
  next rowId parts => exact .inl ⟨rowId, parts, rfl⟩
  next other => exact .inr ⟨other, rfl⟩

lemma decodePairCursor_cases :
    (∃ a b, unpacked P cursor = some [a, b] ∧ decodePairCursor P cursor = .ok (a, b)) ∨
    ((∀ a b, unpacked P cursor ≠ some [a, b]) ∧ decodePairCursor P cursor = .error (.invalidCursor cursor)) := by
  rw [decodePairCursor]
  split
  next a b parts => exact .inl ⟨a, b, parts, rfl⟩
  next other => exact .inr ⟨other, rfl⟩

end Decoding

section Results

variable {γ : Type} {Typed : γ → Prop} {result : Except ListError γ}

lemma decodes_ok {key : γ} (ok : result = .ok key) : Decodes Typed cursor result ↔ Typed key := by
  constructor
  · rintro (refused | ⟨other, same, typed⟩)
    · rw [ok] at refused
      cases refused
    · rw [ok] at same
      obtain rfl := Except.ok.inj same
      exact typed
  · intro typed
    exact .inr ⟨key, ok, typed⟩

lemma decodes_refused (refused : result = .error (.invalidCursor cursor)) : Decodes Typed cursor result :=
  .inl refused

end Results

lemma decodeCursor_iff (P : Platform) (cursor : List Point) :
    Decodes (fun key => IsStr key.2) cursor (decodeCursor P cursor) ↔
      ∀ createdAt rowId, unpacked P cursor = some [createdAt, rowId] → Dated P createdAt → IsStr rowId := by
  rcases decodeCursor_cases P cursor with ⟨raw, rowId, createdAt, parts, read, ok⟩ | ⟨undated, refused⟩
  · rw [decodes_ok ok, parts]
    constructor
    · rintro typed _ _ ⟨⟩ _
      exact typed
    · intro typed
      exact typed raw rowId rfl (Option.isSome_iff_exists.mpr ⟨createdAt, read⟩)
  · exact ⟨fun _ raw rowId same dated => absurd dated (undated raw rowId same), fun _ => decodes_refused refused⟩

lemma decodeIdCursor_iff (P : Platform) (cursor : List Point) :
    Decodes IsInt cursor (decodeIdCursor P cursor) ↔ ∀ rowId, unpacked P cursor = some [rowId] → IsInt rowId := by
  rcases decodeIdCursor_cases P cursor with ⟨rowId, parts, ok⟩ | ⟨other, refused⟩
  · rw [decodes_ok ok, parts]
    constructor
    · rintro typed _ ⟨⟩
      exact typed
    · intro typed
      exact typed rowId rfl
  · exact ⟨fun _ rowId same => absurd same (other rowId), fun _ => decodes_refused refused⟩

lemma decodeRankedCursor_iff (P : Platform) (cursor : List Point) :
    Decodes (fun key => IsInt key.1 ∧ IsStr key.2.2) cursor (decodeRankedCursor P cursor) ↔
      ∀ rank createdAt rowId, unpacked P cursor = some [rank, createdAt, rowId] → Dated P createdAt →
        IsInt rank ∧ IsStr rowId := by
  rcases decodeRankedCursor_cases P cursor with ⟨rank, raw, rowId, createdAt, parts, read, ok⟩ | ⟨undated, refused⟩
  · rw [decodes_ok ok, parts]
    constructor
    · rintro typed _ _ _ ⟨⟩ _
      exact typed
    · intro typed
      exact typed rank raw rowId rfl (Option.isSome_iff_exists.mpr ⟨createdAt, read⟩)
  · exact ⟨fun _ rank raw rowId same dated => absurd dated (undated rank raw rowId same),
      fun _ => decodes_refused refused⟩

lemma decodePairCursor_iff (P : Platform) (cursor : List Point) :
    Decodes (fun key => IsInt key.1 ∧ IsInt key.2) cursor (decodePairCursor P cursor) ↔
      ∀ a b, unpacked P cursor = some [a, b] → IsInt a ∧ IsInt b := by
  rcases decodePairCursor_cases P cursor with ⟨a, b, parts, ok⟩ | ⟨other, refused⟩
  · rw [decodes_ok ok, parts]
    constructor
    · rintro typed _ _ ⟨⟩
      exact typed
    · intro typed
      exact typed a b rfl
  · exact ⟨fun _ a b same => absurd same (other a b), fun _ => decodes_refused refused⟩

/-! ## What was encoded -/

lemma str_value_iff (rowId : List Point) : (Item.str rowId).value = .str rowId ↔ Apart rowId := by
  rw [← joinPairs_eq_self_iff, Item.value, PyValue.str.injEq]

section Encoded

variable (documented : P.Documented)
include documented

/-- A written list is unpacked into what its items are read as. -/
lemma unpacked_encode {items : List Item} (encoded : encodePayload items = some cursor) :
    unpacked P cursor = some (items.map Item.value) := by
  obtain ⟨text, written, rfl⟩ := Option.map_eq_some_iff.mp encoded
  rw [unpacked, toChars?_ofChars, Option.bind_some, Base64.decode_encode, Option.bind_some, fromUTF8_toUTF8,
    Option.bind_some, String.toList_ofList, loads_dumps written documented.room_pos]
  rfl

lemma readCreatedAt_isoformat (createdAt : DateTime) :
    readCreatedAt P (Item.str (isoformat createdAt)).value = some createdAt := by
  have apart : joinPairs (isoformat createdAt) = isoformat createdAt :=
    (joinPairs_eq_self_iff _).mpr (apart_ofChars _)
  rw [Item.value, apart]
  exact documented.reads_isoformat createdAt

lemma decodeCursor_encode {createdAt : DateTime} {rowId : List Point}
    (encoded : encodeCursor createdAt rowId = some cursor) :
    decodeCursor P cursor = .ok (createdAt, .str rowId) ↔ Apart rowId := by
  have parts := unpacked_encode documented encoded
  rw [List.map_cons, List.map_singleton] at parts
  rw [decodeCursor, parts]
  simp only [readCreatedAt_isoformat documented]
  rw [Except.ok.injEq, Prod.mk.injEq, str_value_iff]
  exact and_iff_right rfl

lemma decodeIdCursor_encode {rowId : ℤ} (encoded : encodeIdCursor rowId = some cursor) :
    decodeIdCursor P cursor = .ok (.int rowId) := by
  have parts := unpacked_encode documented encoded
  rw [List.map_singleton] at parts
  rw [decodeIdCursor, parts]
  rfl

lemma decodeRankedCursor_encode {rank : ℤ} {createdAt : DateTime} {rowId : List Point}
    (encoded : encodeRankedCursor rank createdAt rowId = some cursor) :
    decodeRankedCursor P cursor = .ok (.int rank, createdAt, .str rowId) ↔ Apart rowId := by
  have parts := unpacked_encode documented encoded
  rw [List.map_cons, List.map_cons, List.map_singleton] at parts
  rw [decodeRankedCursor, parts]
  simp only [readCreatedAt_isoformat documented]
  rw [Except.ok.injEq, Prod.mk.injEq, Prod.mk.injEq, str_value_iff]
  exact (and_iff_right rfl).trans (and_iff_right rfl)

lemma decodePairCursor_encode {a b : ℤ} (encoded : encodePairCursor a b = some cursor) :
    decodePairCursor P cursor = .ok (.int a, .int b) := by
  have parts := unpacked_encode documented encoded
  rw [List.map_cons, List.map_singleton] at parts
  rw [decodePairCursor, parts]
  rfl

end Encoded

/-! ## Lists -/

lemma encodeIdCursor_bigInt (id : BigInt) : ∃ cursor, encodeIdCursor id = some cursor := by
  have bounds := id.2
  have short : (digitsOf id.1.natAbs).length ≤ 19 := Nat.toDigits_length 10 _ 19 (by decide) (by omega)
  have writable : ∀ item ∈ [Item.int id], item.Writable := by
    intro item mem
    rw [List.mem_singleton.mp mem]
    exact short.trans (by decide)
  rw [encodeIdCursor, encodePayload, dumps, if_pos writable]
  exact ⟨_, rfl⟩

lemma encodeCursor_some (createdAt : DateTime) (rowId : List Point) :
    ∃ cursor, encodeCursor createdAt rowId = some cursor := by
  have writable : ∀ item ∈ [Item.str (isoformat createdAt), .str rowId], item.Writable := by
    intro item mem
    rcases List.mem_pair.mp mem with rfl | rfl
    · trivial
    · trivial
  rw [encodeCursor, encodePayload, dumps, if_pos writable]
  exact ⟨_, rfl⟩

/-- A page is returned where the keys of its rows can be written. -/
lemma firstPage_ok {encode : α → Option (List Point)} (writes : ∀ row, ∃ cursor, encode row = some cursor)
    (limit : ℤ) (ordered : List α) : ∃ page, firstPage encode limit ordered = .ok page := by
  rw [firstPage]
  split_ifs with more
  · have pos := clampLimit_pos limit
    have filled : (ordered.take (clampLimit limit + 1)).take (clampLimit limit) ≠ [] := by
      rw [← List.length_pos_iff, List.length_take]
      omega
    obtain ⟨cursor, written⟩ := writes (List.getLast _ filled)
    rw [List.getLast?_eq_some_getLast filled, Option.bind_some, written]
    exact ⟨_, rfl⟩
  · exact ⟨_, rfl⟩

section Results

variable {β : Type} {result : Except ListError β}

lemma answers_ok {page : β} (ok : result = .ok page) : Answers cursor result := .inl ⟨page, ok⟩

lemma answers_refused (refused : result = .error (.invalidCursor cursor)) : Answers cursor result := .inr refused

lemma not_answers {e : ListError} (fails : result = .error e) (other : e ≠ .invalidCursor cursor) :
    ¬Answers cursor result := by
  rintro (⟨page, ok⟩ | refused)
  · rw [fails] at ok
    cases ok
  · rw [fails] at refused
    exact other (Except.error.inj refused)

end Results

lemma compare_isSome_iff (documented : P.Documented) (sense : Sense) (value : PyValue) :
    (P.compare sense value).isSome ↔ Comparable P sense value := by
  constructor
  · intro compared
    cases value with
    | int n =>
      by_cases range : -2 ^ 63 ≤ n ∧ n < 2 ^ 63
      · exact .int ⟨n, range⟩
      · rw [documented.outside sense n range] at compared
        cases compared
    | float literal => exact .float literal compared
    | null | bool | str | list | dict =>
      rw [documented.others sense _ (fun _ same => by cases same) fun _ same => by cases same] at compared
      cases compared
  · intro comparable
    cases comparable with
    | int n =>
      rw [documented.integers]
      rfl
    | float literal compared => exact compared

/-- A list ordered by its ids answers a cursor unless it holds one element that cannot be compared with them. -/
lemma listById_answers (documented : P.Documented) (sense : Sense) (key : α → BigInt) (rows : List α) (limit : ℤ) :
    Answers cursor (listById P sense key rows (some cursor) limit) ↔
      ∀ value, unpacked P cursor = some [value] → Comparable P sense value := by
  rcases decodeIdCursor_cases P cursor with ⟨value, parts, ok⟩ | ⟨other, refused⟩
  · have only : (∀ v, unpacked P cursor = some [v] → Comparable P sense v) ↔ (P.compare sense value).isSome := by
      rw [parts, compare_isSome_iff documented]
      constructor
      · intro all
        exact all value rfl
      · rintro comparable _ ⟨⟩
        exact comparable
    rw [only, listById, pastId, ok]
    simp only
    cases compared : P.compare sense value with
    | some past =>
      obtain ⟨page, made⟩ := firstPage_ok (fun row => encodeIdCursor_bigInt (key row)) limit
        (orderBy sense key (rows.filter fun row => past (key row)))
      exact iff_of_true (answers_ok made) rfl
    | none => exact iff_of_false (not_answers rfl nofun) nofun
  · have fails : listById P sense key rows (some cursor) limit = .error (.invalidCursor cursor) := by
      rw [listById, pastId, refused]
    exact iff_of_true (answers_refused fails) fun value same => absurd same (other value)

/-- The campaign's list answers where the campaign is found. -/
lemma listCampaignEnrollments_answers (documented : P.Documented) (session : Session κ) (campaignId : BigInt)
    (limit : ℤ) : Answers cursor (listCampaignEnrollments P session campaignId (some cursor) limit) ↔
      Found session campaignId ∧ ∀ value, unpacked P cursor = some [value] → Comparable P .greater value := by
  rw [listCampaignEnrollments]
  split_ifs with found
  · rw [and_iff_right found]
    exact listById_answers documented ..
  · exact iff_of_false (not_answers rfl nofun) fun both => found both.1

lemma listSentTouches_answers (documented : P.Documented) (session : Session κ) (campaignId : BigInt) (limit : ℤ) :
    Answers cursor (listSentTouches P session campaignId (some cursor) limit) ↔
      Found session campaignId ∧ ∀ createdAt rowId, unpacked P cursor = some [createdAt, rowId] →
        Dated P createdAt → ∃ id : BigInt, toInt P rowId = some id := by
  rw [listSentTouches]
  split_ifs with found
  · rw [and_iff_right found]
    rcases decodeCursor_cases P cursor with ⟨raw, rowId, createdAt, parts, read, ok⟩ | ⟨undated, refused⟩
    · have only : (∀ createdAt row, unpacked P cursor = some [createdAt, row] → Dated P createdAt →
          ∃ id : BigInt, toInt P row = some id) ↔ ∃ id : BigInt, toInt P rowId = some id := by
        rw [parts]
        constructor
        · intro all
          exact all raw rowId rfl (Option.isSome_iff_exists.mpr ⟨createdAt, read⟩)
        · rintro integer _ _ ⟨⟩ _
          exact integer
      rw [only, beforeKey, ok]
      simp only
      cases integer : toInt P rowId with
      | none =>
        refine iff_of_false (not_answers rfl nofun) ?_
        rintro ⟨id, same⟩
        cases same
      | some n =>
        simp only
        by_cases range : -2 ^ 63 ≤ n ∧ n < 2 ^ 63
        · rw [documented.integers .less ⟨n, range⟩]
          refine iff_of_true ?_ ⟨⟨n, range⟩, rfl⟩
          obtain ⟨page, made⟩ := firstPage_ok
            (fun row : DateTime × TouchLog κ => encodeCursor_some row.1 ((writeInt row.2.touchId).map .ofChar)) limit _
          exact answers_ok made
        · rw [documented.outside .less n range]
          refine iff_of_false (not_answers rfl nofun) ?_
          rintro ⟨id, same⟩
          obtain rfl := Option.some_inj.mp same
          exact range id.2
    · rw [beforeKey, refused]
      exact iff_of_true (answers_refused rfl) fun raw rowId same dated => absurd dated (undated raw rowId same)
  · exact iff_of_false (not_answers rfl nofun) fun both => found both.1

/-! ## Every cursor -/

/-- What becomes of every cursor, in the decoders, after the encoders, and in the lists. -/
structure CursorsAnswered (P : Platform) : Prop where
  cursor : ∀ cursor, Decodes (fun key => IsStr key.2) cursor (decodeCursor P cursor) ↔
    ∀ createdAt rowId, unpacked P cursor = some [createdAt, rowId] → Dated P createdAt → IsStr rowId
  idCursor : ∀ cursor, Decodes IsInt cursor (decodeIdCursor P cursor) ↔
    ∀ rowId, unpacked P cursor = some [rowId] → IsInt rowId
  rankedCursor : ∀ cursor, Decodes (fun key => IsInt key.1 ∧ IsStr key.2.2) cursor (decodeRankedCursor P cursor) ↔
    ∀ rank createdAt rowId, unpacked P cursor = some [rank, createdAt, rowId] → Dated P createdAt →
      IsInt rank ∧ IsStr rowId
  pairCursor : ∀ cursor, Decodes (fun key => IsInt key.1 ∧ IsInt key.2) cursor (decodePairCursor P cursor) ↔
    ∀ a b, unpacked P cursor = some [a, b] → IsInt a ∧ IsInt b
  /-- A key is read back, a text in which surrogates meet excepted. -/
  cursorEncoded : ∀ createdAt rowId cursor, encodeCursor createdAt rowId = some cursor →
    (decodeCursor P cursor = .ok (createdAt, .str rowId) ↔ Apart rowId)
  idEncoded : ∀ rowId cursor, encodeIdCursor rowId = some cursor → decodeIdCursor P cursor = .ok (.int rowId)
  rankedEncoded : ∀ rank createdAt rowId cursor, encodeRankedCursor rank createdAt rowId = some cursor →
    (decodeRankedCursor P cursor = .ok (.int rank, createdAt, .str rowId) ↔ Apart rowId)
  pairEncoded : ∀ a b cursor, encodePairCursor a b = some cursor → decodePairCursor P cursor = .ok (.int a, .int b)
  enrollments : ∀ {κ} (session : Session κ) campaignId cursor limit,
    Answers cursor (listCampaignEnrollments P session campaignId (some cursor) limit) ↔
      Found session campaignId ∧ ∀ value, unpacked P cursor = some [value] → Comparable P .greater value
  campaigns : ∀ {κ} (session : Session κ) wanted cursor limit,
    Answers cursor (listCampaigns P session wanted (some cursor) limit) ↔
      ∀ value, unpacked P cursor = some [value] → Comparable P .greater value
  sentTouches : ∀ {κ} (session : Session κ) campaignId cursor limit,
    Answers cursor (listSentTouches P session campaignId (some cursor) limit) ↔
      Found session campaignId ∧ ∀ createdAt rowId, unpacked P cursor = some [createdAt, rowId] →
        Dated P createdAt → ∃ id : BigInt, toInt P rowId = some id
  proposals : ∀ {κ} (session : Session κ) wanted cursor limit,
    Answers cursor (listProposals P session wanted (some cursor) limit) ↔
      ∀ value, unpacked P cursor = some [value] → Comparable P .less value
  insights : ∀ {κ} (session : Session κ) wanted cursor limit,
    Answers cursor (listInsights P session wanted (some cursor) limit) ↔
      ∀ value, unpacked P cursor = some [value] → Comparable P .less value

/-- A cursor that unpacks into as many elements as are taken is answered where they have the right types, and only
there; every other one is refused. -/
theorem cursors_answered (documented : P.Documented) : CursorsAnswered P where
  cursor := decodeCursor_iff P
  idCursor := decodeIdCursor_iff P
  rankedCursor := decodeRankedCursor_iff P
  pairCursor := decodePairCursor_iff P
  cursorEncoded _ _ _ encoded := decodeCursor_encode documented encoded
  idEncoded _ _ encoded := decodeIdCursor_encode documented encoded
  rankedEncoded _ _ _ _ encoded := decodeRankedCursor_encode documented encoded
  pairEncoded _ _ _ encoded := decodePairCursor_encode documented encoded
  enrollments session campaignId _ limit := listCampaignEnrollments_answers documented session campaignId limit
  campaigns _ _ _ limit := listById_answers documented .greater Campaign.campaignId _ limit
  sentTouches session campaignId _ limit := listSentTouches_answers documented session campaignId limit
  proposals _ _ _ limit := listById_answers documented .less AgentProposal.proposalId _ limit
  insights _ _ _ limit := listById_answers documented .less AgentInsight.insightId _ limit

/-! ## A cursor of texts -/

/-- A platform that reads the times and integers that are written here, and compares no floats. -/
def plainPlatform : Platform where
  room := 900
  fromisoformat text := (toChars? text).bind ClientEngagement.fromisoformat
  intOfText text :=
    match (toChars? text).bind readNumeral with
    | some (.int n) => some n
    | _ => none
  intOfFloat _ := none
  instant createdAt := createdAt.1.micros.getD 0
  compare sense
    | .int n =>
      if -2 ^ 63 ≤ n ∧ n < 2 ^ 63 then
        some fun id =>
          match sense with
          | .greater => decide (n < id.1)
          | .less => decide (id.1 < n)
      else none
    | _ => none

lemma plainPlatform_documented : plainPlatform.Documented where
  room_pos := by decide
  reads_isoformat createdAt := by
    rw [isoformat]
    simp only [plainPlatform]
    rw [toChars?_ofChars, Option.bind_some, fromisoformat_isoformat]
  integers sense n := by
    cases sense with
    | greater => exact if_pos n.2
    | less => exact if_pos n.2
  outside sense n out := if_neg out
  others sense value not_int not_float := by
    cases value with
    | int n => exact absurd rfl (not_int n)
    | float literal => exact absurd rfl (not_float literal)
    | null | bool | str | list | dict => rfl

theorem cursors_answered_plain : CursorsAnswered plainPlatform := cursors_answered plainPlatform_documented

/-- The text `["abc"]`. -/
def textCursor : List Point := "WyJhYmMiXQ==".toList.map .ofChar

/-- The text `["2024-01-01T00:00:00", "abc"]`. -/
def datedTextCursor : List Point := "WyIyMDI0LTAxLTAxVDAwOjAwOjAwIiwgImFiYyJd".toList.map .ofChar

def abc : List Point := "abc".toList.map .ofChar

lemma unpacked_textCursor : unpacked plainPlatform textCursor = some [.str abc] := by
  have encoded : encodePayload [.str abc] = some textCursor := by decide +kernel
  rw [unpacked_encode plainPlatform_documented encoded]
  rfl

lemma unpacked_datedTextCursor : unpacked plainPlatform datedTextCursor =
    some [.str ("2024-01-01T00:00:00".toList.map .ofChar), .str abc] := by
  have encoded : encodePayload [.str ("2024-01-01T00:00:00".toList.map .ofChar), .str abc] = some datedTextCursor := by
    decide +kernel
  rw [unpacked_encode plainPlatform_documented encoded]
  rfl

def oneCampaign : Session Unit where
  campaigns := [⟨⟨1, by decide⟩, ()⟩]
  enrollments := []
  touches := []
  proposals := []
  insights := []

/-- A text is returned for an id, a list of findings fails on it with the database's exception, and the list of sent
touches with that of `int`. -/
theorem text_cursor_fails :
    decodeIdCursor plainPlatform textCursor = .ok (.str abc) ∧
      ¬Decodes IsInt textCursor (decodeIdCursor plainPlatform textCursor) ∧
      listInsights plainPlatform oneCampaign (fun _ => true) (some textCursor) 50 = .error .refusedStatement ∧
      ¬Answers textCursor (listInsights plainPlatform oneCampaign (fun _ => true) (some textCursor) 50) ∧
      listSentTouches plainPlatform oneCampaign ⟨1, by decide⟩ (some datedTextCursor) 50 = .error .notAnInteger ∧
      ¬Answers datedTextCursor
        (listSentTouches plainPlatform oneCampaign ⟨1, by decide⟩ (some datedTextCursor) 50) := by
  have decoded : decodeIdCursor plainPlatform textCursor = .ok (.str abc) := by
    rw [decodeIdCursor, unpacked_textCursor]
  have insights : listInsights plainPlatform oneCampaign (fun _ => true) (some textCursor) 50 =
      .error .refusedStatement := by
    rw [listInsights, listById, pastId, decoded]
    rfl
  have read : (readCreatedAt plainPlatform (.str ("2024-01-01T00:00:00".toList.map .ofChar))).isSome := by
    decide +kernel
  obtain ⟨createdAt, read⟩ := Option.isSome_iff_exists.mp read
  have found : Found oneCampaign ⟨1, by decide⟩ := by decide
  have touches : listSentTouches plainPlatform oneCampaign ⟨1, by decide⟩ (some datedTextCursor) 50 =
      .error .notAnInteger := by
    have key : decodeCursor plainPlatform datedTextCursor = .ok (createdAt, .str abc) := by
      rw [decodeCursor, unpacked_datedTextCursor]
      simp only [read]
    have text : toInt plainPlatform (.str abc) = none := by decide +kernel
    rw [listSentTouches, if_pos found, beforeKey, key]
    simp only [text]
  refine ⟨decoded, ?_, insights, not_answers insights nofun, touches, not_answers touches nofun⟩
  rw [decodes_ok decoded]
  rintro ⟨n, same⟩
  cases same

end ClientEngagement.Api.Cursors
