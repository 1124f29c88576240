import SchoolCatalog.Service.Basic
import SchoolCatalog.Catalog.Standard

/-!
# The store as a service

Reading and writing records in the state. A store may be out of reach, and it may lose updates; a
lost update is reported like one of a record that is not there.
-/

namespace SchoolCatalog

/-- How the store behaves. -/
structure Store where
  reachable : Bool := true
  losesUpdates : Bool := false
  deriving DecidableEq

namespace Store

/-- The compiled conditions; `in` needs a value that lists something. -/
def compile (c : Collection) (conditions : List Condition) : Service (List Clause) :=
  match Condition.clauses? c conditions with
  | some clauses => pure clauses
  | none => Service.fail .mistyped

def connect (store : Store) : Service Database := do
  if store.reachable then return (← get).database else Service.fail .unavailable

def find (store : Store) (c : Collection) (s : Selection) : Service (List Record) := do
  let clauses ← compile c s.conditions
  let db ← store.connect
  Service.ofExcept (db.select c clauses s)

def findOne (store : Store) (c : Collection) (conditions : List Condition)
    (includeHidden : Bool) : Service (Option Record) := do
  let records ← store.find c { conditions, limit := some 1, includeHidden }
  return records.head?

def count (store : Store) (c : Collection) (conditions : List Condition) : Service Nat := do
  let clauses ← compile c conditions
  let db ← store.connect
  Service.ofExcept (db.count c clauses)

/-- The record with an identity. -/
def get (store : Store) (c : Collection) (id : Datum) (projection : Option (List String)) :
    Service (Option Record) := do
  let records ← store.find c { conditions := [⟨"id", .eq, id⟩], projection, limit := some 1 }
  return records.head?

/-- Inserts a record and answers with it as it is found then; the stamp of its creation is drawn in any
case, and used if the values give none. -/
def insert? (store : Store) (c : Collection) (values : Record) : Service (Option Record) := do
  let values := writable c values
  let stamp ← Service.nextStamp
  let values := if Record.has values "created_at" then values
    else Record.put values "created_at" (.text stamp)
  let db ← store.connect
  let (db, id) ← Service.ofExcept (db.insert c values)
  modify fun s => { s with database := db }
  store.get c (.int id) none

/-- Inserts a record and answers with it as stored; a collection that declares no identity shows
nothing of it. -/
def insert (store : Store) (c : Collection) (values : Record) : Service Record :=
  (·.getD []) <$> store.insert? c values

/-- Writes values over those of a record and answers with it, if there is one. -/
def update (store : Store) (c : Collection) (id : Datum) (values : Record) :
    Service (Option Record) := do
  if store.losesUpdates || (← read).losesUpdates then return none
  let values := writable c values
  if values.isEmpty then store.get c id none
  else
    let db ← store.connect
    let (db, found) ← Service.ofExcept (db.update c id values)
    modify fun s => { s with database := db }
    if found then store.get c id none else return none

/-- Deletes a record with all that depend on it; tells whether there was one. -/
def delete (store : Store) (c : Collection) (id : Datum) : Service Bool := do
  let db ← store.connect
  let (db, found) ← Service.ofExcept (db.delete c id)
  modify fun s => { s with database := db }
  return found

/-! ## Related records -/

/-- Whether a key is a number; a NaN is one too. -/
def isNumber : Datum → Bool
  | .real _ => true
  | d => d.wholeValue?.isSome

/-- Whether two keys can be put in order. -/
def comparable (x y : Datum) : Bool :=
  match x, y with
  | .bytes _, .bytes _ => true
  | x, y => (x.wording?.isSome && y.wording?.isSome) || (isNumber x && isNumber y)

/-- The order of two keys of one kind. -/
def keyOrder? : Datum → Datum → Option Ordering
  | .text s, .text t => some (compare s t)
  | .text s, .broken t => some (compare (Wording.proper s).points t)
  | .broken s, .text t => some (compare s (Wording.proper t).points)
  | .broken s, .broken t => some (compare s t)
  | .bytes s, .bytes t => some (Cell.compareBytes s t)
  | .real x, .real y => x.compare? y
  | .real x, d => d.wholeValue?.bind x.compareInt?
  | d, .real y => (d.wholeValue?.bind y.compareInt?).map Ordering.swap
  | d, e => match d.wholeValue?, e.wholeValue? with
    | some i, some j => some (compare i j)
    | _, _ => none

/-- Keys without repetitions, of which the first counts. -/
def distinct (keys : List Datum) : List Datum :=
  keys.foldl (fun seen k => if seen.any k.same then seen else seen ++ [k]) []

/-- The different keys in order; keys have to be comparable. -/
def sortedKeys (keys : List Datum) : Except Failure (List Datum) :=
  let keys := distinct keys
  let isKey : Datum → Bool
    | .list _ => false
    | .dict _ => false
    | _ => true
  if !keys.all isKey then .error .mistyped
  else if keys.length < 2 then .ok keys
  else if keys.all fun k => keys.all (comparable k) then
    .ok (keys.mergeSort fun k l => keyOrder? k l ≠ some .gt)
  else .error .mistyped

/-- A list cut into pieces of a size; the fuel bounds their number. -/
def batches {α : Type} (size : Nat) : Nat → List α → List (List α)
  | 0, _ => []
  | fuel + 1, items =>
    if items.isEmpty then [] else items.take size :: batches size fuel (items.drop size)

/-- The related records of a batch of keys. -/
def related (store : Store) (inc : Include) (keys : List Datum) : Service (List Record) :=
  store.find inc.collection
    { conditions := [⟨inc.foreignField, .oneOf, .list keys⟩]
      projection := inc.fields.map fun fields => fields ++ [inc.foreignField]
      sort := inc.collection.defaultSort }

/-- A related record as it is shown: its key only if it was asked for. -/
def shownRelated (inc : Include) (record : Record) : Record :=
  match inc.fields with
  | some fields =>
    if inc.foreignField = "id" || fields.contains inc.foreignField then record
    else Record.remove record inc.foreignField
  | none => record

/-- What is attached to a record with a key, out of all related records. -/
def attachment (inc : Include) (related : List Record) (key : Datum) : Datum :=
  let own := related.filter fun r => !key.isNull && (Record.field r inc.foreignField).same key
  if inc.many then .list (own.map fun r => .dict (shownRelated inc r))
  else .ofOption (own.getLast?.map fun r => .dict (shownRelated inc r))

/-- Keys in batches of a size; there are none of a negative size, and a size of nothing is refused. -/
def keyBatches (size : Int) (keys : List Datum) : Except Failure (List (List Datum)) :=
  if size = 0 then .error (.refused .emptyBatches)
  else if size < 0 then .ok []
  else .ok (batches size.toNat keys.length keys)

/-- Attaches related records, looked up in batches of keys; a related record has to carry its key. -/
def populate (store : Store) (records : List Record) (inc : Include) : Service (List Record) := do
  let keys := (records.map fun r => Record.field r inc.localField).filter fun d => !d.isNull
  let keys ← Service.ofExcept (sortedKeys keys)
  let batches ← Service.ofExcept (keyBatches (← read).batchSize keys)
  let found ← batches.mapM (store.related inc)
  let related := found.flatten
  if !related.all fun r => Record.has r inc.foreignField then Service.fail .absentField
  return records.map fun r =>
    Record.put r inc.path (attachment inc related (Record.field r inc.localField))

end Store
end SchoolCatalog
