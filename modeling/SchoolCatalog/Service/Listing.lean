import SchoolCatalog.Service.Store
import SchoolCatalog.Catalog.Standard

/-!
# Lists

A page of the records that a list request asks for, with the links around it and with related
records attached.
-/

namespace SchoolCatalog

/-- A page of records. -/
structure ResultPage where
  records : List Record
  total : Int
  page : Int
  limit : Int

namespace ResultPage

def pagination (p : ResultPage) : Pagination := .around p.page p.limit p.total

/-- A link as a record. -/
def linkDatum (link : PageLink) : Datum := .dict [("page", .int link.page), ("limit", .int link.limit)]

def paginationDatum (p : Pagination) : Datum :=
  .dict ((p.next.toList.map fun l => ("next", linkDatum l)) ++
    p.prev.toList.map fun l => ("prev", linkDatum l))

/-- The answer to a list request. -/
def envelope (p : ResultPage) : Record :=
  [("success", .bool true), ("count", .int p.records.length),
    ("pagination", paginationDatum p.pagination), ("data", .list (p.records.map .dict))]

end ResultPage

namespace ListRequest

/-- The fields that are fetched: those wanted, and the one that related records are found by. -/
def fetched (r : ListRequest) (inc : Option Include) : Option (List String) :=
  match r.projection, inc with
  | some fields, some inc =>
    some (if fields.contains inc.localField then fields else fields ++ [inc.localField])
  | projection, _ => projection

/-- Whether the field that related records are found by is taken out again. -/
def dropsLocal (r : ListRequest) (inc : Include) : Bool :=
  match r.projection with
  | some fields => !fields.contains inc.localField && inc.localField != "id"
  | none => false

/-- Runs a parsed list request. -/
def run (r : ListRequest) (c : Collection) (inc : Option Include) (store : Store) :
    Service ResultPage := do
  let total ← store.count c r.conditions
  let records ← store.find c
    { conditions := r.conditions, projection := r.fetched inc, sort := r.sort, skip := r.skip,
      limit := some r.limit }
  let records ← match inc with
    | none => pure records
    | some inc => do
      let records ← store.populate records inc
      pure (if r.dropsLocal inc then records.map fun x => Record.remove x inc.localField
        else records)
  return { records, total, page := r.page, limit := r.limit }

/-- Answers the parameters of a list request. -/
def answer (c : Collection) (params : Parameters) (inc : Option Include) (store : Store) :
    Service Record := do
  let request := parse c params (defaultLimit (← read).settings none)
  return (← request.run c inc store).envelope

end ListRequest
end SchoolCatalog
