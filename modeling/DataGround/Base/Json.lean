import DataGround.Library.Binary64

/-!
# JSON documents

The documents that the control plane keeps in `jsonb` columns: observations, results and event
payloads.  Arrays and objects are spelled out as lists of their own, so that equality of
documents -- which several statements of the store test -- is decidable by derivation.

An object lists its members in the order of their keys, as Go's encoder writes a map; two
documents are then equal exactly when they are equal as `jsonb` values.

`Json.decoded` is what `json.Unmarshal` makes of a document that it decodes into an `any`: its
numbers become binary64.
-/

namespace DataGround

mutual

/-- A JSON document. -/
inductive Json where
  | null
  | bool (value : Bool)
  | number (value : ℚ)
  | string (value : String)
  | array (items : Items)
  | object (members : Members)
  deriving DecidableEq

/-- The items of an array. -/
inductive Items where
  | nil
  | cons (item : Json) (rest : Items)
  deriving DecidableEq

/-- The members of an object. -/
inductive Members where
  | nil
  | cons (key : String) (value : Json) (rest : Members)
  deriving DecidableEq

end

namespace Json

/-- The object with the given members. -/
def ofMembers (members : List (String × Json)) : Json :=
  .object (members.foldr (fun entry rest => .cons entry.1 entry.2 rest) .nil)

/-- The value of a member, if there is one. -/
def memberValue (key : String) : Members → Option Json
  | .nil => none
  | .cons k value rest => if k = key then some value else memberValue key rest

/-- The number of members of an object, `len` of the decoded map. -/
def memberCount : Members → Nat
  | .nil => 0
  | .cons _ _ rest => memberCount rest + 1

/-- `document -> key`: the member of an object, nothing for any other document. -/
def get? (key : String) : Json → Option Json
  | .object members => memberValue key members
  | _ => none

/-- `document ->> key` for a text member. -/
def text? (key : String) (document : Json) : Option String :=
  match document.get? key with
  | some (.string value) => some value
  | _ => none

end Json

mutual

/-- The document with its numbers replaced. -/
def Json.mapNumbers (f : ℚ → Option ℚ) : Json → Option Json
  | .null => some .null
  | .bool value => some (.bool value)
  | .number value => (f value).map .number
  | .string value => some (.string value)
  | .array items => (Items.mapNumbers f items).map .array
  | .object members => (Members.mapNumbers f members).map .object

/-- Items with their numbers replaced. -/
def Items.mapNumbers (f : ℚ → Option ℚ) : Items → Option Items
  | .nil => some .nil
  | .cons item rest =>
    (Json.mapNumbers f item).bind fun item => (Items.mapNumbers f rest).map (.cons item)

/-- Members with their numbers replaced. -/
def Members.mapNumbers (f : ℚ → Option ℚ) : Members → Option Members
  | .nil => some .nil
  | .cons key value rest =>
    (Json.mapNumbers f value).bind fun value => (Members.mapNumbers f rest).map (.cons key value)

end

/-- The document that `json.Unmarshal` decodes into an `any`; a number that is too large for a
`float64` is an error. -/
def Json.decoded (document : Json) : Option Json :=
  document.mapNumbers Binary64.decode

mutual

/-- A number that has been decoded is decoded to itself, and so is a document. -/
lemma Json.mapNumbers_mapNumbers : ∀ {document decoded : Json},
    document.mapNumbers Binary64.decode = some decoded →
      decoded.mapNumbers Binary64.decode = some decoded
  | .null, _, h => by
    cases h
    rfl
  | .bool value, _, h => by
    cases h
    rfl
  | .number value, _, h => by
    obtain ⟨_, hq, rfl⟩ := Option.map_eq_some_iff.mp h
    rw [Json.mapNumbers, Binary64.decode_decode hq, Option.map_some]
  | .string value, _, h => by
    cases h
    rfl
  | .array items, _, h => by
    obtain ⟨_, hitems, rfl⟩ := Option.map_eq_some_iff.mp h
    rw [Json.mapNumbers, Items.mapNumbers_mapNumbers hitems, Option.map_some]
  | .object members, _, h => by
    obtain ⟨_, hmembers, rfl⟩ := Option.map_eq_some_iff.mp h
    rw [Json.mapNumbers, Members.mapNumbers_mapNumbers hmembers, Option.map_some]

lemma Items.mapNumbers_mapNumbers : ∀ {items decoded : Items},
    items.mapNumbers Binary64.decode = some decoded →
      decoded.mapNumbers Binary64.decode = some decoded
  | .nil, _, h => by
    cases h
    rfl
  | .cons item rest, _, h => by
    obtain ⟨_, hitem, h⟩ := Option.bind_eq_some_iff.mp h
    obtain ⟨_, hrest, rfl⟩ := Option.map_eq_some_iff.mp h
    rw [Items.mapNumbers, Json.mapNumbers_mapNumbers hitem, Option.bind_some,
      Items.mapNumbers_mapNumbers hrest, Option.map_some]

lemma Members.mapNumbers_mapNumbers : ∀ {members decoded : Members},
    members.mapNumbers Binary64.decode = some decoded →
      decoded.mapNumbers Binary64.decode = some decoded
  | .nil, _, h => by
    cases h
    rfl
  | .cons key value rest, _, h => by
    obtain ⟨_, hvalue, h⟩ := Option.bind_eq_some_iff.mp h
    obtain ⟨_, hrest, rfl⟩ := Option.map_eq_some_iff.mp h
    rw [Members.mapNumbers, Json.mapNumbers_mapNumbers hvalue, Option.bind_some,
      Members.mapNumbers_mapNumbers hrest, Option.map_some]

end

/-- A document that has been decoded once is decoded to itself. -/
lemma Json.decoded_decoded {document decoded : Json} (h : document.decoded = some decoded) :
    decoded.decoded = some decoded :=
  Json.mapNumbers_mapNumbers h

end DataGround
