import SchoolCatalog.Geo.Geocoder
import SchoolCatalog.Proofs.Lists
import SchoolCatalog.Proofs.Number.Doubles
import SchoolCatalog.Proofs.Record

/-!
# Values that are read

A value that is read from a JSON text is built of nulls, flags, numbers and texts, and every number in it
that is no integer is one of the format. So it holds no bytes, however deep it is looked into; nor does
the location that a geocoder's reply gives.

Results:
1. `yields_read`, `yields_parse`: what holds of all values of that kind holds of one that is read.
2. `yields_ofReply`: the location of a reply holds no bytes.
-/

namespace SchoolCatalog

/-- A value without bytes anywhere in it. -/
inductive Datum.Byteless : Datum → Prop
  | null : Byteless .null
  | bool (b : Bool) : Byteless (.bool b)
  | int (i : Int) : Byteless (.int i)
  | real (x : Binary64) : Byteless (.real x)
  | text (s : String) : Byteless (.text s)
  | broken (points : List Nat) : Byteless (.broken points)
  | list {items : List Datum} : (∀ d ∈ items, Byteless d) → Byteless (.list items)
  | dict {entries : Record} : (∀ entry ∈ entries, Byteless entry.2) → Byteless (.dict entries)

/-! ## Answers of computations that may fail -/

section Yields

variable {α β ε : Type} {P : α → Prop} {Q : β → Prop}

/-- The answer, if there is one, has a property. -/
def Yields (P : α → Prop) (x : Except ε α) : Prop := ∀ a, x = .ok a → P a

theorem yields_error (fault : ε) : Yields P (.error fault : Except ε α) := fun _ h => nomatch h

theorem yields_ok {a : α} (h : P a) : Yields P (.ok a : Except ε α) := fun _ heq => Except.ok.inj heq ▸ h

theorem Yields.bind {x : Except ε α} {f : α → Except ε β} (hx : Yields P x)
    (hf : ∀ a, P a → Yields Q (f a)) : Yields Q (x >>= f) := by
  intro b hb
  obtain ⟨a, ha, hfa⟩ := bind_eq_ok.1 hb
  exact hf a (hx a ha) b hfa

theorem Yields.map {x : Except ε α} {f : α → β} (hx : Yields P x) (hf : ∀ a, P a → Q (f a)) :
    Yields Q (x.map f) := by
  cases x with
  | error fault => exact yields_error fault
  | ok a => exact yields_ok (hf a (hx a rfl))

theorem yields_any (x : Except ε α) : Yields (fun _ => True) x := fun _ _ => trivial

end Yields

open Datum (Byteless)

theorem byteless_ofWording (w : Wording) : Byteless (.ofWording w) := by
  cases w with
  | proper s => exact .text s
  | broken points => exact .broken points

/-- What stands in a record without bytes has none. -/
theorem byteless_field {record : Record} (h : ∀ entry ∈ record, Byteless entry.2) (name : String) :
    Byteless (Record.field record name) := by
  rw [Record.field, Record.get?]
  cases hlookup : record.lookup name with
  | none => exact .null
  | some d =>
    exact h (name, d) (mem_of_lookup hlookup)

/-! ## Reading -/

namespace Json

/-- A property of values that whatever is read from a text has: numbers of the format and all other
values without parts have it, and lists and records of values that do. -/
structure Inherited (P : Datum → Prop) : Prop where
  null : P .null
  bool (b : Bool) : P (.bool b)
  int (i : Int) : P (.int i)
  real {x : Binary64} : x.IsDouble → P (.real x)
  wording (w : Wording) : P (.ofWording w)
  list {items : List Datum} : (∀ d ∈ items, P d) → P (.list items)
  dict {entries : Record} : (∀ entry ∈ entries, P entry.2) → P (.dict entries)

theorem inherited_byteless : Inherited Byteless where
  null := .null
  bool := .bool
  int := .int
  real _ := .real _
  wording := byteless_ofWording
  list := .list
  dict := .dict

variable {P : Datum → Prop}

theorem yields_readNumber (h : Inherited P) (p : Place) : Yields (fun r => P r.1) (readNumber p) := by
  unfold readNumber
  dsimp only
  split
  · exact yields_error _
  · split
    · split
      · exact yields_error _
      · exact yields_ok (h.int _)
    · split
      · exact yields_ok (h.real (Binary64.isDouble_toBinary64 _))
      · exact yields_error _

section Steps

variable {depth fuel : Nat}

/-- A value that is read, if its items or entries are read with less fuel. -/
theorem yields_readValue (h : Inherited P)
    (hitems : ∀ depth q, Yields (fun r => ∀ d ∈ r.1, P d) (readItems depth fuel q))
    (hentries : ∀ depth q, Yields (fun r => ∀ entry ∈ r.1, P entry.2) (readEntries depth fuel q))
    (p : Place) : Yields (fun r => P r.1) (readValue depth (fuel + 1) p) := by
  rw [readValue]
  split
  · exact yields_error _
  split
  · exact (yields_any _).map fun r _ => h.wording r.1
  split
  · split
    · exact yields_error _
    dsimp only
    split
    · exact yields_ok (h.dict fun entry hentry => nomatch hentry)
    · refine (hentries _ _).map fun r hr => h.dict fun entry hentry => ?_
      rcases Record.mem_putAll hentry with hnone | hentry
      · exact nomatch hnone
      · exact hr entry hentry
  split
  · split
    · exact yields_error _
    dsimp only
    split
    · exact yields_ok (h.list fun d hd => nomatch hd)
    · exact (hitems _ _).map fun r hr => h.list hr
  -- words stand for null, flags and numbers that are not finite
  split
  · exact yields_ok h.null
  · exact yields_ok (h.bool true)
  · exact yields_ok (h.bool false)
  split
  · exact yields_ok (h.real .nan)
  · exact yields_ok (h.real (.infinite _))
  · exact yields_ok (h.real (.infinite _))
  · exact yields_readNumber h p

theorem yields_readItems (hvalue : ∀ q, Yields (fun r => P r.1) (readValue depth fuel q))
    (hitems : ∀ q, Yields (fun r => ∀ d ∈ r.1, P d) (readItems depth fuel q)) (p : Place) :
    Yields (fun r => ∀ d ∈ r.1, P d) (readItems depth (fuel + 1) p) := by
  rw [readItems]
  refine (hvalue _).bind fun r hr => ?_
  dsimp only
  split
  · exact yields_ok fun d hd => List.mem_singleton.1 hd ▸ hr
  · exact (hitems _).bind fun s hs => yields_ok (List.forall_mem_cons.2 ⟨hr, hs⟩)
  · exact yields_error _

theorem yields_readEntries (hvalue : ∀ q, Yields (fun r => P r.1) (readValue depth fuel q))
    (hentries : ∀ q, Yields (fun r => ∀ entry ∈ r.1, P entry.2) (readEntries depth fuel q)) (p : Place) :
    Yields (fun r => ∀ entry ∈ r.1, P entry.2) (readEntries depth (fuel + 1) p) := by
  rw [readEntries]
  split
  · exact yields_error _
  refine (yields_any _).bind ?_
  rintro ⟨name, q⟩ _
  dsimp only
  split
  · exact yields_error _
  refine (hvalue _).bind ?_
  rintro ⟨d, q⟩ hr
  dsimp only
  split
  · split
    · exact yields_ok fun entry hentry => List.mem_singleton.1 hentry ▸ hr
    split
    · exact (hentries _).bind fun s hs => yields_ok (List.forall_mem_cons.2 ⟨hr, hs⟩)
    · exact yields_error _
  · exact yields_error _

end Steps

/-- Values, items of lists and entries of records that are read. -/
theorem yields_read (h : Inherited P) (fuel : Nat) : ∀ (depth : Nat) (p : Place),
    Yields (fun r => P r.1) (readValue depth fuel p) ∧
    Yields (fun r => ∀ d ∈ r.1, P d) (readItems depth fuel p) ∧
    Yields (fun r => ∀ entry ∈ r.1, P entry.2) (readEntries depth fuel p) := by
  -- the three readers call each other with less fuel
  induction fuel with
  | zero => exact fun depth p => ⟨yields_error _, yields_error _, yields_error _⟩
  | succ fuel ih =>
    intro depth p
    refine ⟨yields_readValue h ?_ ?_ p, yields_readItems ?_ ?_ p, yields_readEntries ?_ ?_ p⟩
    · exact fun depth q => (ih depth q).2.1
    · exact fun depth q => (ih depth q).2.2
    · exact fun q => (ih depth q).1
    · exact fun q => (ih depth q).2.1
    · exact fun q => (ih depth q).1
    · exact fun q => (ih depth q).2.2

/-- What is read from a text. -/
theorem yields_parse (h : Inherited P) (w : Wording) : Yields P (parseWording w) := by
  unfold parseWording
  dsimp only
  split
  · exact yields_error _
  · refine (yields_read h _ _ _).1.bind fun r hr => ?_
    split
    · exact yields_ok hr
    · exact yields_error _

end Json

/-! ## Locations -/

namespace Geo

theorem byteless_orElse {x y : Datum} (hx : Byteless x) (hy : Byteless y) : Byteless (orElse x y) := by
  unfold orElse
  split
  · exact hx
  · exact hy

theorem yields_joinPresent (parts : List Datum) : Yields Byteless (joinPresent parts) := by
  unfold joinPresent
  dsimp only
  split
  · exact yields_ok .null
  · exact (yields_any _).map fun texts _ => byteless_ofWording _

theorem yields_countryCode (d : Datum) : Yields Byteless (countryCode d) := by
  unfold countryCode
  split
  · exact yields_ok .null
  · exact (yields_any _).map fun w _ => byteless_ofWording _

theorem yields_detailsOf {item : Record} (h : ∀ entry ∈ item, Byteless entry.2) :
    Yields (fun details => ∀ entry ∈ details, Byteless entry.2) (detailsOf item) := by
  have hd := byteless_field h "address"
  unfold detailsOf
  dsimp only
  split
  · exact yields_ok fun entry hentry => nomatch hentry
  · split
    next details heq =>
      rw [heq] at hd
      cases hd with
      | dict hentries => exact yields_ok hentries
    next => exact yields_error _

/-- The texts of a location have no bytes. -/
def Location.Byteless (l : Location) : Prop :=
  ∀ entry ∈ l.record, entry.2.Byteless

theorem yields_ofMatch {d : Datum} (h : Byteless d) : Yields Location.Byteless (Location.ofMatch d) := by
  unfold Location.ofMatch
  split
  next item =>
    have hitem : ∀ entry ∈ item, Byteless entry.2 := by
      cases h with
      | dict hentries => exact hentries
    refine (yields_detailsOf hitem).bind fun details hdetails => ?_
    refine (yields_joinPresent _).bind fun street hstreet => ?_
    refine (yields_any _).bind fun latitude _ => ?_
    refine (yields_any _).bind fun longitude _ => ?_
    refine (yields_countryCode _).bind fun country hcountry => yields_ok ?_
    have hfield := byteless_field hdetails
    have hcity := byteless_orElse (byteless_orElse (hfield "city") (hfield "town")) (hfield "village")
    simp only [Location.Byteless, Location.record, List.forall_mem_cons, List.not_mem_nil, false_implies,
      implies_true, and_true]
    exact ⟨.real _, .real _, byteless_field hitem _, hstreet, hcity, hfield _, hfield _, hcountry⟩
  next => exact yields_error _

theorem yields_bodyValue (body : Bytes) :
    Yields (fun found => ∀ d, found = some d → Byteless d) (bodyValue body) := by
  unfold bodyValue
  split
  next d hparse =>
    obtain ⟨text, _, htext⟩ := Option.map_eq_some_iff.1 hparse
    refine yields_ok fun e he => ?_
    obtain rfl := Option.some.inj he
    exact Json.yields_parse Json.inherited_byteless (.proper text) _ htext
  next => exact yields_error _
  next => exact yields_ok fun e he => nomatch he

/-- The location of a geocoder's reply has no bytes. -/
theorem yields_ofReply (address : Wording) (reply : Reply) :
    Yields Location.Byteless (Location.ofReply address reply) := by
  unfold Location.ofReply
  split
  · exact yields_error _
  next body status =>
    split
    · exact yields_error _
    have hbody := yields_bodyValue body
    split
    · exact yields_error _
    · exact yields_error _
    next first rest hvalue =>
      have hlist := hbody _ hvalue _ rfl
      cases hlist with
      | list hitems =>
        have hmatch := yields_ofMatch (hitems first (List.mem_cons_self ..))
        cases hlocation : Location.ofMatch first with
        | error fault => exact yields_error _
        | ok location => exact yields_ok (hmatch location hlocation)
    · exact yields_error _

end Geo
end SchoolCatalog
