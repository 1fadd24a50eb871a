import ClientEngagement.Lib.Base64
import ClientEngagement.Lib.DateTime
import ClientEngagement.Lib.JsonAscii

/-!
# Cursors of list endpoints

A cursor is the sort key of a row as JSON in URL-safe Base64. It is decoded to what was encoded
(`decodeCursor_encode`, `decodeRankedCursor_encode`); anything else is refused.
-/

namespace ClientEngagement.Api
open JsonText

def maxLimit : ℕ := 200

def clampLimit (limit : ℤ) : ℕ := (max 1 (min limit maxLimit)).toNat

lemma clampLimit_pos (limit : ℤ) : 0 < clampLimit limit := by
  rw [clampLimit]
  omega

inductive PageError where
  | invalidCursor (cursor : String)
  /-- The database refuses to compare the key with what the cursor held. -/
  | badParameter

/-! ## Encoding -/

/-- The list as JSON, in Base64. -/
def encodePayload (items : List (Scalar ℕ)) : String :=
  .ofList (Base64.encode (String.ofList (Scalar.dumps naturals items)).toUTF8.data.toList)

def encodeCursor (createdAt : DateTime) (rowId : String) : String :=
  encodePayload [.text (.ofList createdAt.1.isoformat), .text rowId]

def encodeRankedCursor (rank : ℕ) (createdAt : DateTime) (rowId : String) : String :=
  encodePayload [.num rank, .text (.ofList createdAt.1.isoformat), .text rowId]

/-! ## Decoding -/

/-- `json.loads` of a text; one with a mark of its encoding is refused. -/
def loadsText (text : List Char) : Option (JsonValue ℕ) :=
  if text.head? = some '\ufeff' then none else loads naturals text

/-- What the value is unpacked into. -/
def unpack : JsonValue ℕ → Option (List (JsonValue ℕ))
  | .arr items => some items
  | .obj fields => some ((fields.map Prod.fst).eraseDups.map .str)
  | .str text => some (text.toList.map fun c => .str (String.singleton c))
  | _ => none

def decodePayload (cursor : String) : Option (List (JsonValue ℕ)) :=
  (Base64.decode cursor.toList).bind fun bytes => (String.fromUTF8? ⟨bytes.toArray⟩).bind fun text =>
    (loadsText text.toList).bind unpack

/-- `datetime.fromisoformat`, which takes texts only. -/
def readCreatedAt : JsonValue ℕ → Option DateTime
  | .str text => fromisoformat text.toList
  | _ => none

def decodeCursor (cursor : String) : Except PageError (DateTime × JsonValue ℕ) :=
  match decodePayload cursor with
  | some [createdAtRaw, rowId] =>
    match readCreatedAt createdAtRaw with
    | some createdAt => .ok (createdAt, rowId)
    | none => .error (.invalidCursor cursor)
  | _ => .error (.invalidCursor cursor)

def decodeRankedCursor (cursor : String) : Except PageError (JsonValue ℕ × DateTime × JsonValue ℕ) :=
  match decodePayload cursor with
  | some [rank, createdAtRaw, rowId] =>
    match readCreatedAt createdAtRaw with
    | some createdAt => .ok (rank, createdAt, rowId)
    | none => .error (.invalidCursor cursor)
  | _ => .error (.invalidCursor cursor)

lemma fromUTF8_toUTF8 (text : String) : String.fromUTF8? ⟨text.toUTF8.data.toList.toArray⟩ = some text := by
  rw [Array.toArray_toList]
  exact dif_pos text.isValidUTF8

/-- A written list is unpacked into its items. -/
lemma decodePayload_encode (items : List (Scalar ℕ)) :
    decodePayload (encodePayload items) = some (items.map Scalar.toJson) := by
  have mark : loadsText (Scalar.dumps naturals items) = loads naturals (Scalar.dumps naturals items) :=
    if_neg (by rw [Scalar.dumps, List.head?_cons]; decide)
  rw [decodePayload, encodePayload, String.toList_ofList, Base64.decode_encode, Option.bind_some, fromUTF8_toUTF8,
    Option.bind_some, String.toList_ofList, mark, Scalar.loads_dumps]
  rfl

lemma readCreatedAt_isoformat (createdAt : DateTime) :
    readCreatedAt (.str (.ofList createdAt.1.isoformat)) = some createdAt := by
  rw [readCreatedAt, String.toList_ofList, fromisoformat_isoformat]

/-- A cursor is decoded to what it was made of. -/
theorem decodeCursor_encode (createdAt : DateTime) (rowId : String) :
    decodeCursor (encodeCursor createdAt rowId) = .ok (createdAt, .str rowId) := by
  rw [decodeCursor, encodeCursor, decodePayload_encode]
  simp only [List.map_cons, List.map_nil, Scalar.toJson, readCreatedAt_isoformat]

theorem decodeRankedCursor_encode (rank : ℕ) (createdAt : DateTime) (rowId : String) :
    decodeRankedCursor (encodeRankedCursor rank createdAt rowId) = .ok (.num rank, createdAt, .str rowId) := by
  rw [decodeRankedCursor, encodeRankedCursor, decodePayload_encode]
  simp only [List.map_cons, List.map_nil, Scalar.toJson, readCreatedAt_isoformat]

end ClientEngagement.Api
