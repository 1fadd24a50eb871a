import ClientEngagement.Lib.Dict
import ClientEngagement.Lib.JsonText

/-!
# Idempotency keys

Model of `api/idempotency.py`: the lookup (`findCached`), the store (`store`) and the middleware around every
handler (`IdempotencyMiddleware.dispatch`), over requests that follow one another. A request carries what the
handler answers if it is run. A row of `idempotency_keys` keeps the body as JSONB, which forgets the order of
an object's members and what was written of a number, and the answer of a replay is written anew from it.

A replay is faithful exactly when the first answer below 500 has the body that would be written of its own
row (`replaysFaithfully_iff`).
-/

namespace ClientEngagement.Api
open JsonText

/-! ## JSON through the table -/

/-- The bytes of a text in UTF-8. -/
def encode (text : List Char) : ByteArray := (String.ofList text).toUTF8

/-- How numbers are written, what a JSONB column gives back of one (nothing, when it refuses it), and how
    `json.loads` decodes the bytes of a text, whose encoding it tells from the first of them. -/
structure JsonPlatform (ν : Type) where
  format : NumberFormat ν
  stored : ν → Option ν
  decode : ByteArray → Option (List Char)
  decode_render : ∀ v, decode (encode (render format v)) = some (render format v)

/-- PostgreSQL keeps no text with a null character. -/
def keepable (text : String) : Bool := !text.toList.contains '\x00'

variable {ν : Type}

/-- The order of an object's members in JSONB: shorter names first, then by their bytes. -/
def jsonbOrder (a b : String × JsonValue ν) : Bool :=
  a.1.utf8ByteSize < b.1.utf8ByteSize || (a.1.utf8ByteSize = b.1.utf8ByteSize && a.1 ≤ b.1)

def keepField : String × Option (JsonValue ν) → Option (String × JsonValue ν)
  | (name, value) => if keepable name then value.map fun value => (name, value) else none

mutual

/-- What the column gives back of a parsed value; of a name that was repeated the last value is the parsed one. -/
def throughJsonb (platform : JsonPlatform ν) : JsonValue ν → Option (JsonValue ν)
  | .null => some .null
  | .bool value => some (.bool value)
  | .num value => (platform.stored value).map .num
  | .str text => if keepable text then some (.str text) else none
  | .arr items => (throughItems platform items).map .arr
  | .obj fields =>
    ((Dict.ofList (throughFields platform fields)).items.mapM keepField).map fun fields =>
      .obj (fields.mergeSort jsonbOrder)

def throughItems (platform : JsonPlatform ν) : List (JsonValue ν) → Option (List (JsonValue ν))
  | [] => some []
  | item :: items =>
    (throughJsonb platform item).bind fun item => (throughItems platform items).map fun items => item :: items

def throughFields (platform : JsonPlatform ν) : List (String × JsonValue ν) → List (String × Option (JsonValue ν))
  | [] => []
  | (name, value) :: fields => (name, throughJsonb platform value) :: throughFields platform fields

end

/-! ## The middleware -/

/-- The primary key of `idempotency_keys`. -/
structure CacheKey where
  key : String
  method : String
  path : String
deriving DecidableEq

def CacheKey.keepable (k : CacheKey) : Bool :=
  Api.keepable k.key && Api.keepable k.method && Api.keepable k.path

/-- `IdempotencyKey`. -/
structure IdempotencyKey (ν : Type) where
  statusCode : ℕ
  responseBody : JsonValue ν

structure Response where
  statusCode : ℕ
  body : ByteArray
deriving DecidableEq

/-- A request, with what its handler answers if it is run: `none` when an exception leaves it. -/
structure Request where
  method : String
  idempotencyKey : Option String
  path : String
  answer : Option Response

def stateChangingMethods : List String := ["POST", "PUT", "PATCH", "DELETE"]

/-- Where the middleware looks the request up, if it does. -/
def Request.cacheKey (r : Request) : Option CacheKey :=
  match r.idempotencyKey with
  | none => none
  | some key => if r.method ∈ stateChangingMethods ∧ key ≠ "" then some ⟨key, r.method, r.path⟩ else none

/-- Whether the handler was run, and what was answered: `none` when an exception left the middleware. -/
structure Outcome where
  ran : Bool
  reply : Option Response
deriving DecidableEq

abbrev Table (ν : Type) := Dict CacheKey (IdempotencyKey ν)

def parsedBody (platform : JsonPlatform ν) (body : ByteArray) : Option (JsonValue ν) :=
  if body = ByteArray.empty then some .null else (platform.decode body).bind (loads platform.format)

/-- `_store`: a body that does not parse is left alone, as is a key that has a row; a value the column refuses
    is an error of the database that is not caught (`none`). -/
def store (platform : JsonPlatform ν) (table : Table ν) (k : CacheKey) (response : Response) : Option (Table ν) :=
  match parsedBody platform response.body with
  | none => some table
  | some parsed =>
    (throughJsonb platform parsed).map fun kept =>
      if table.contains k then table else table.set k ⟨response.statusCode, kept⟩

/-- The `JSONResponse` a replay is answered with. -/
def replay (platform : JsonPlatform ν) (row : IdempotencyKey ν) : Response :=
  ⟨row.statusCode, encode (render platform.format row.responseBody)⟩

/-- `IdempotencyMiddleware.dispatch`. -/
def dispatch (platform : JsonPlatform ν) (table : Table ν) (r : Request) : Table ν × Outcome :=
  match r.cacheKey with
  | none => (table, ⟨true, r.answer⟩)
  | some k =>
    -- The lookup of a key that no column can hold is refused before the handler is run.
    if k.keepable = false then (table, ⟨false, none⟩)
    else
      match table.get? k, r.answer with
      | some row, _ => (table, ⟨false, some (replay platform row)⟩)
      | none, none => (table, ⟨true, none⟩)
      | none, some response =>
        if response.statusCode < 500 then
          match store platform table k response with
          | none => (table, ⟨true, none⟩)
          | some table => (table, ⟨true, some response⟩)
        else (table, ⟨true, some response⟩)

/-- The table after some requests, from an empty one. -/
def tableAfter (platform : JsonPlatform ν) (requests : List Request) : Table ν :=
  requests.foldl (fun table r => (dispatch platform table r).1) Dict.empty

/-- What becomes of a request that comes after others. -/
def outcome (platform : JsonPlatform ν) (requests : List Request) (r : Request) : Outcome :=
  (dispatch platform (tableAfter platform requests) r).2

/-! ## Faithful replays -/

/-- `first` is the first of the key's requests whose handler answers below 500. -/
structure FirstBelow (k : CacheKey) (earlier : List Request) (first : Request) (response : Response) : Prop where
  keyed : first.cacheKey = some k
  answered : first.answer = some response
  below : response.statusCode < 500
  failed : ∀ r ∈ earlier, r.cacheKey = some k → ∀ answer ∈ r.answer, 500 ≤ answer.statusCode

/-- Once the handler was run and answered below 500, it is not run again for the key and every later request is
    answered the same; an answer of 500 or above changes no row. -/
structure ReplaysFaithfully (platform : JsonPlatform ν) (k : CacheKey) (requests : List Request) : Prop where
  replayed : ∀ earlier first between later rest, requests = earlier ++ first :: (between ++ later :: rest) →
    ∀ response, FirstBelow k earlier first response → (outcome platform earlier first).ran = true →
      later.cacheKey = some k →
        outcome platform (earlier ++ first :: between) later = ⟨false, some response⟩
  unstored : ∀ earlier r rest, requests = earlier ++ r :: rest → r.cacheKey = some k →
    ∀ response ∈ r.answer, 500 ≤ response.statusCode →
      tableAfter platform (earlier ++ [r]) = tableAfter platform earlier

/-- A body that is the text of a value the table gives back as it is. -/
def Replayable (platform : JsonPlatform ν) (body : ByteArray) : Prop :=
  ∃ v, throughJsonb platform v = some v ∧ body = encode (render platform.format v)

/-- The first answer below 500, if the key is used again after it, has a replayable body. A key that cannot be
    looked up has no answers. -/
def FirstReplayable (platform : JsonPlatform ν) (k : CacheKey) (requests : List Request) : Prop :=
  k.keepable = true → ∀ earlier first rest, requests = earlier ++ first :: rest → ∀ response, FirstBelow k earlier first response →
    (∃ later ∈ rest, later.cacheKey = some k) → Replayable platform response.body

/-! ## One request -/

variable {platform : JsonPlatform ν} {k : CacheKey} {table : Table ν} {r : Request} {response : Response}

/-- What the row of a response keeps of its body. -/
def storedBody (platform : JsonPlatform ν) (body : ByteArray) : Option (JsonValue ν) :=
  (parsedBody platform body).bind (throughJsonb platform)

/-- The row of a key changes only for a first answer below 500. -/
lemma get?_store {after : Table ν} (stored : store platform table k response = some after) (x : CacheKey) :
    after.get? x =
      if x = k ∧ table.get? k = none then (storedBody platform response.body).map (⟨response.statusCode, ·⟩)
      else table.get? x := by
  rw [store] at stored
  cases parsed : parsedBody platform response.body with
  | none =>
    rw [parsed] at stored
    obtain rfl := Option.some_inj.mp stored
    split_ifs with fresh
    · rw [storedBody, parsed, fresh.1, fresh.2]
      rfl
    · rfl
  | some value =>
    rw [parsed] at stored
    obtain ⟨kept, through, eq⟩ := Option.map_eq_some_iff.mp stored
    rw [← eq, storedBody, parsed, Option.bind_some, through, Option.map_some, Dict.contains]
    cases row : table.get? k with
    | some old => rw [if_pos Option.isSome_some, if_neg fun fresh => absurd fresh.2 (by simp)]
    | none =>
      rw [if_neg (by simp), Dict.get?_set]
      by_cases same : x = k
      · rw [if_pos same, if_pos ⟨same, rfl⟩]
      · rw [if_neg same, if_neg fun fresh => same fresh.1]

lemma store_refused (refused : store platform table k response = none) : storedBody platform response.body = none := by
  rw [store] at refused
  rw [storedBody]
  cases parsed : parsedBody platform response.body with
  | none => rfl
  | some value =>
    rw [parsed] at refused
    exact Option.map_eq_none_iff.mp refused

lemma dispatch_unkeepable (keyed : r.cacheKey = some k) (no : k.keepable = false) :
    dispatch platform table r = (table, ⟨false, none⟩) := by
  rw [dispatch, keyed]
  exact if_pos no

lemma dispatch_cached {row : IdempotencyKey ν} (keyed : r.cacheKey = some k) (keep : k.keepable = true)
    (cached : table.get? k = some row) :
    dispatch platform table r = (table, ⟨false, some (replay platform row)⟩) := by
  rw [dispatch, keyed]
  simp only [keep, Bool.true_eq_false, if_false, cached]

/-- Without a row the handler is run. -/
lemma dispatch_ran (keyed : r.cacheKey = some k) (keep : k.keepable = true) (absent : table.get? k = none) :
    (dispatch platform table r).2.ran = true := by
  rw [dispatch, keyed]
  simp only [keep, Bool.true_eq_false, if_false, absent]
  cases r.answer with
  | none => rfl
  | some response =>
    simp only
    split_ifs
    · cases store platform table k response <;> rfl
    · rfl

/-- Without a row only an answer below 500 leaves one, with what the table keeps of its body. -/
lemma get?_dispatch_absent (keyed : r.cacheKey = some k) (keep : k.keepable = true) (absent : table.get? k = none) :
    (dispatch platform table r).1.get? k =
      match r.answer with
      | none => none
      | some response =>
        if response.statusCode < 500 then (storedBody platform response.body).map (⟨response.statusCode, ·⟩)
        else none := by
  rw [dispatch, keyed]
  simp only [keep, Bool.true_eq_false, if_false, absent]
  cases r.answer with
  | none => exact absent
  | some response =>
    simp only
    split_ifs with below
    · cases eq : store platform table k response with
      | none =>
        rw [store_refused eq]
        exact absent
      | some after =>
        simp only
        rw [get?_store eq, if_pos ⟨rfl, absent⟩]
    · exact absent

/-- The row of another key stays. -/
lemma get?_dispatch_other (other : r.cacheKey ≠ some k) : (dispatch platform table r).1.get? k = table.get? k := by
  rw [dispatch]
  cases keyed : r.cacheKey with
  | none => rfl
  | some x =>
    have ne : k ≠ x := fun same => other (same ▸ keyed)
    simp only
    split_ifs with no
    · rfl
    · cases table.get? x with
      | some row => rfl
      | none =>
        cases r.answer with
        | none => rfl
        | some response =>
          simp only
          split_ifs
          · cases eq : store platform table x response with
            | none => rfl
            | some after =>
              simp only
              rw [get?_store eq, if_neg fun both => ne both.1]
          · rfl

/-- A row stays. -/
lemma get?_dispatch_row {row : IdempotencyKey ν} (cached : table.get? k = some row) :
    (dispatch platform table r).1.get? k = some row := by
  by_cases keyed : r.cacheKey = some k
  · cases keep : k.keepable with
    | false => rw [dispatch_unkeepable keyed keep, cached]
    | true => rw [dispatch_cached keyed keep cached, cached]
  · rw [get?_dispatch_other keyed, cached]

/-- An answer of 500 or above changes nothing. -/
lemma dispatch_failed (failed : ∀ response ∈ r.answer, 500 ≤ response.statusCode) :
    (dispatch platform table r).1 = table := by
  rw [dispatch]
  cases r.cacheKey with
  | none => rfl
  | some k =>
    simp only
    split_ifs
    · rfl
    · cases table.get? k with
      | some row => rfl
      | none =>
        cases answer : r.answer with
        | none => rfl
        | some response =>
          have high := failed response answer
          simp only
          rw [if_neg (by omega)]

/-! ## A sequence of requests -/

lemma tableAfter_snoc (requests : List Request) (r : Request) :
    tableAfter platform (requests ++ [r]) = (dispatch platform (tableAfter platform requests) r).1 := by
  rw [tableAfter, List.foldl_append]
  rfl

/-- While the key was answered with 500 and above only, it has no row. -/
lemma get?_tableAfter_failed (requests : List Request)
    (failed : ∀ r ∈ requests, r.cacheKey = some k → ∀ answer ∈ r.answer, 500 ≤ answer.statusCode) :
    (tableAfter platform requests).get? k = none := by
  induction requests using List.reverseRecOn with
  | nil => rfl
  | append_singleton requests r ih =>
    have absent := ih fun r' mem => failed r' (List.mem_append_left _ mem)
    rw [tableAfter_snoc]
    by_cases keyed : r.cacheKey = some k
    · rw [dispatch_failed (failed r (by simp) keyed), absent]
    · rw [get?_dispatch_other keyed, absent]

lemma get?_tableAfter_row {row : IdempotencyKey ν} {requests : List Request}
    (cached : (tableAfter platform requests).get? k = some row) (more : List Request) :
    (tableAfter platform (requests ++ more)).get? k = some row := by
  induction more using List.reverseRecOn with
  | nil => rwa [List.append_nil]
  | append_singleton more r ih => rw [← List.append_assoc, tableAfter_snoc, get?_dispatch_row ih]

lemma get?_tableAfter_others (requests : List Request) {more : List Request}
    (others : ∀ r ∈ more, r.cacheKey ≠ some k) :
    (tableAfter platform (requests ++ more)).get? k = (tableAfter platform requests).get? k := by
  induction more using List.reverseRecOn with
  | nil => rw [List.append_nil]
  | append_singleton more r ih =>
    rw [← List.append_assoc, tableAfter_snoc, get?_dispatch_other (others r (by simp)),
      ih fun r' mem => others r' (List.mem_append_left _ mem)]

/-- After the first answer below 500 the key has the row of its body, if one could be kept. -/
lemma get?_tableAfter_first {earlier : List Request} {first : Request} (keep : k.keepable = true)
    (below : FirstBelow k earlier first response) :
    (tableAfter platform (earlier ++ [first])).get? k =
      (storedBody platform response.body).map (⟨response.statusCode, ·⟩) := by
  have absent : (tableAfter platform earlier).get? k = none := get?_tableAfter_failed earlier below.failed
  rw [tableAfter_snoc, get?_dispatch_absent below.keyed keep absent, below.answered]
  exact if_pos below.below

/-! ## Replayable bodies -/

lemma encode_ne_empty (format : NumberFormat ν) (v : JsonValue ν) : encode (render format v) ≠ ByteArray.empty := by
  obtain ⟨c, rest, eq, -⟩ := render_head format v
  rw [eq]
  intro same
  have text : String.ofList (c :: rest) = "" := String.toByteArray_inj.mp same
  exact List.cons_ne_nil c rest (by simpa using congrArg String.toList text)

lemma parsedBody_encode (v : JsonValue ν) : parsedBody platform (encode (render platform.format v)) = some v := by
  rw [parsedBody, if_neg (encode_ne_empty platform.format v), platform.decode_render, Option.bind_some, loads_render]

/-- A body is replayable exactly when it is written again from what is kept of it. -/
lemma replayable_iff {body : ByteArray} :
    Replayable platform body ↔
      ∃ kept, storedBody platform body = some kept ∧ encode (render platform.format kept) = body := by
  constructor
  · rintro ⟨v, through, rfl⟩
    exact ⟨v, by rw [storedBody, parsedBody_encode, Option.bind_some, through], rfl⟩
  · rintro ⟨kept, stored, rfl⟩
    rw [storedBody, parsedBody_encode, Option.bind_some] at stored
    exact ⟨kept, stored, rfl⟩

/-! ## The exact condition -/

/-- A replayable first answer is the answer of every later request. -/
lemma outcome_later {earlier between : List Request} {first later : Request} (keep : k.keepable = true)
    (below : FirstBelow k earlier first response) (replayable : Replayable platform response.body)
    (keyed : later.cacheKey = some k) :
    outcome platform (earlier ++ first :: between) later = ⟨false, some response⟩ := by
  obtain ⟨kept, stored, same⟩ := replayable_iff.mp replayable
  have row : (tableAfter platform (earlier ++ [first])).get? k = some ⟨response.statusCode, kept⟩ := by
    rw [get?_tableAfter_first keep below, stored, Option.map_some]
  have later_row := get?_tableAfter_row row between
  rw [List.append_assoc, List.singleton_append] at later_row
  rw [outcome, dispatch_cached keyed keep later_row, replay, same]

/-- The next request of the key is answered alike only when the body is replayable. -/
lemma replayable_of_next {earlier between : List Request} {first next : Request} (keep : k.keepable = true)
    (below : FirstBelow k earlier first response) (others : ∀ r ∈ between, r.cacheKey ≠ some k)
    (keyed : next.cacheKey = some k)
    (same : outcome platform (earlier ++ first :: between) next = ⟨false, some response⟩) :
    Replayable platform response.body := by
  have row : (tableAfter platform (earlier ++ [first] ++ between)).get? k = _ :=
    get?_tableAfter_others (earlier ++ [first]) others
  rw [List.append_assoc, List.singleton_append, get?_tableAfter_first keep below] at row
  cases stored : storedBody platform response.body with
  | none =>
    rw [stored, Option.map_none] at row
    have ran : (dispatch platform (tableAfter platform (earlier ++ first :: between)) next).2.ran = true :=
      dispatch_ran keyed keep row
    rw [outcome] at same
    rw [same] at ran
    exact absurd ran Bool.false_ne_true
  | some kept =>
    rw [stored, Option.map_some] at row
    rw [outcome, dispatch_cached keyed keep row] at same
    have reply : replay platform ⟨response.statusCode, kept⟩ = response :=
      Option.some_inj.mp (congrArg Outcome.reply same)
    exact replayable_iff.mpr ⟨kept, stored, congrArg Response.body reply⟩

/-- The key is used again for a first time. -/
lemma exists_next {requests : List Request} (again : ∃ later ∈ requests, later.cacheKey = some k) :
    ∃ between next rest, requests = between ++ next :: rest ∧ next.cacheKey = some k ∧
      ∀ r ∈ between, r.cacheKey ≠ some k := by
  induction requests with
  | nil =>
    obtain ⟨_, mem, _⟩ := again
    cases mem
  | cons r requests ih =>
    by_cases keyed : r.cacheKey = some k
    · exact ⟨[], r, requests, rfl, keyed, nofun⟩
    · obtain ⟨later, mem, later_keyed⟩ := again
      obtain rfl | mem := List.mem_cons.mp mem
      · exact absurd later_keyed keyed
      · obtain ⟨between, next, rest, rfl, next_keyed, others⟩ := ih ⟨later, mem, later_keyed⟩
        exact ⟨r :: between, next, rest, rfl, next_keyed, List.forall_mem_cons.mpr ⟨keyed, others⟩⟩

/-- The replays of a key are faithful exactly when its first answer below 500, if it is asked for again, has the
    text of a value that the table gives back unchanged for its body. -/
theorem replaysFaithfully_iff (platform : JsonPlatform ν) (k : CacheKey) (requests : List Request) :
    ReplaysFaithfully platform k requests ↔ FirstReplayable platform k requests := by
  constructor
  · intro faithful keep earlier first rest eq response below again
    obtain ⟨between, next, more, rfl, keyed, others⟩ := exists_next again
    have ran : (outcome platform earlier first).ran = true :=
      dispatch_ran below.keyed keep (get?_tableAfter_failed earlier below.failed)
    exact replayable_of_next keep below others keyed
      (faithful.replayed earlier first between next more eq response below ran keyed)
  · intro first_replayable
    constructor
    · intro earlier first between later rest eq response below ran keyed
      cases keep : k.keepable with
      | false =>
        rw [outcome, dispatch_unkeepable below.keyed keep] at ran
        exact absurd ran Bool.false_ne_true
      | true =>
        exact outcome_later keep below
          (first_replayable keep earlier first _ eq response below ⟨later, by simp, keyed⟩) keyed
    · intro earlier r rest _ keyed response answered high
      rw [tableAfter_snoc]
      apply dispatch_failed
      intro answer mem
      rwa [Option.mem_unique mem answered]

/-! ## An answer without a body -/

/-- Natural numbers, which a column keeps; texts in UTF-8. -/
def plainPlatform : JsonPlatform ℕ where
  format := naturals
  stored := some
  decode body := body.utf8Decode?.map Array.toList
  decode_render v := by simp [encode]

/-- Publishing a version of a prompt, answered with 204 and nothing. -/
def publishRequest : Request :=
  ⟨"POST", some "a", "/api/v1/prompt-config/voice_contract/1/publish", some ⟨204, ByteArray.empty⟩⟩

/-- The replay has a body: the text `null`. -/
theorem published_replayed_with_body :
    ¬ReplaysFaithfully plainPlatform ⟨"a", "POST", "/api/v1/prompt-config/voice_contract/1/publish"⟩
      [publishRequest, publishRequest] := by
  intro faithful
  have below : FirstBelow ⟨"a", "POST", "/api/v1/prompt-config/voice_contract/1/publish"⟩ [] publishRequest
      ⟨204, ByteArray.empty⟩ := ⟨rfl, rfl, by decide, nofun⟩
  have same := faithful.replayed [] publishRequest [] publishRequest [] rfl _ below rfl rfl
  have written : outcome plainPlatform [publishRequest] publishRequest =
      ⟨false, some (replay plainPlatform ⟨204, .null⟩)⟩ := rfl
  have reply := Option.some_inj.mp (congrArg Outcome.reply (written.symm.trans same))
  exact encode_ne_empty naturals .null (congrArg Response.body reply)

end ClientEngagement.Api
