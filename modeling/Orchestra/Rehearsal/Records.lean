import Orchestra.Failure
import Orchestra.Template
import Orchestra.Value.Order

/-!
A data layer in memory.

Every entity has records under keys, in the order in which the keys were first used. A record without
an identity is given the next free one when it is created.
-/

namespace Orchestra.Rehearsal

structure Records where
  entities : List (String × Fields) := []
  created : Nat := 0

namespace Records

/-- The records of an entity, by key. -/
def of (records : Records) (entity : String) : Fields :=
  (records.entities.lookup entity).getD []

/-- Replaces the records of an entity in their place, or appends them. -/
def putEntity (entity : String) (entries : Fields) :
    List (String × Fields) → List (String × Fields)
  | [] => [(entity, entries)]
  | (name, old) :: rest =>
    if name == entity then (name, entries) :: rest else (name, old) :: putEntity entity entries rest

/-- Stores a record under a key. -/
def put (records : Records) (entity key : String) (record : Value) : Records :=
  { records with
    entities := putEntity entity ((records.of entity).set key record) records.entities }

/-- The records that entities begin with. -/
def ofEntities (entities : List (String × List Fields)) : Records :=
  entities.foldl (fun records (entity, items) =>
    items.foldl (fun records item =>
      records.put entity (Fields.valueD item "id" .null).interpolated (.obj item))
      { records with entities := putEntity entity (records.of entity) records.entities }) {}

def create (records : Records) (entity : String) (data : Fields) : Value × Records :=
  let (record, created) :=
    if data.has "id" then (data, records.created)
    else
      let number := String.ofList (Text.naturalText (records.created + 1))
      (("id", .str ("id" ++ number)) :: data, records.created + 1)
  let key := (Fields.valueD record "id" .null).interpolated
  (.obj record, { records.put entity key (.obj record) with created })

/-- Writes data over a record, which is made when it is missing. -/
def update (records : Records) (entity id : String) (data : Fields) : Value × Records :=
  let old :=
    match (records.of entity).get? id with
    | some (.obj fields) => fields
    | _ => [("id", .str id)]
  let record := Value.obj (Fields.overlay old data)
  (record, records.put entity id record)

def delete (records : Records) (entity id : String) : Records :=
  match records.entities.lookup entity with
  | some entries =>
    { records with entities := putEntity entity (entries.erase id) records.entities }
  | none => records

def read (records : Records) (entity id : String) : Value :=
  (records.of entity).valueD id .null

/-- A record has the wanted values. -/
def fits (wanted : Fields) (record : Value) : Bool :=
  wanted.all fun (name, value) =>
    match record.key? name with
    | some found => found.same value
    | none => false

/-- The records that a selector fits: the one of a key, or all with the wanted values. -/
def find (records : Records) (entity : String) (selector : Value) : List Value :=
  match selector with
  | .str key => ((records.of entity).get? key).toList
  | .obj wanted => ((records.of entity).map Prod.snd).filter (fits wanted)
  | _ => (records.of entity).map Prod.snd

def toFields (records : Records) : Fields :=
  records.entities.map fun (entity, entries) => (entity, .obj entries)

end Records

end Orchestra.Rehearsal
