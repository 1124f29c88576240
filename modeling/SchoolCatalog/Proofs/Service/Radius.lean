import SchoolCatalog.Proofs.Service.Locations
import SchoolCatalog.Proofs.Store.Comparison

/-!
# Schools within a radius

A search from a place measures every school whose location is stored. If all of them can be measured, it
answers with those whose distance is within the radius, each once, the nearest first, and schools that are
as near as each other in the order in which they were published. A location that the formula for distances
is not defined for makes the search fail, whatever the other schools are. One such location is a latitude
that is infinite, which a geocoder may reply with: once it is stored, no search succeeds.

Results:
1. `measured_or_strays`, `strays_of_infinite`: which schools can be measured.
2. `near_of_run`: the answer to a search after every run.
3. `lost_of_run`: a search that fails for a school that is somewhere else.
-/

namespace SchoolCatalog

open Store Store.Database

/-! ## Distances -/

namespace Geo

/-- A distance is measured, or one of its steps is not defined. -/
theorem distanceMiles_cases (lat1 lon1 lat2 lon2 : Binary64) :
    (∃ miles, distanceMiles (.real lat1) (.real lon1) (.real lat2) (.real lon2) = .ok miles) ∨
      distanceMiles (.real lat1) (.real lon1) (.real lat2) (.real lon2) =
        .error (.refused .outsideDomain) := by
  rw [distanceMiles_real]
  unfold haversine
  dsimp only
  split
  · exact .inr rfl
  split
  · exact .inr rfl
  split
  · exact .inr rfl
  · exact .inl ⟨_, rfl⟩

/-- No sine is taken of an infinite latitude. -/
theorem hasSine_infinite (negative : Bool) :
    hasSine (radians (Binary64.infinite negative).toFloat) = false := by
  cases negative <;> decide +kernel

theorem distanceMiles_infinite (lat1 lon1 lon2 : Binary64) (negative : Bool) :
    distanceMiles (.real lat1) (.real lon1) (.real (.infinite negative)) (.real lon2) =
      .error (.refused .outsideDomain) := by
  rw [distanceMiles_real]
  unfold haversine
  dsimp only
  rw [hasSine_infinite, Bool.and_false, Bool.false_and, Bool.false_and]
  rfl

end Geo

/-- A radius that is a number reaches as far as a distance. -/
def Datum.Reaches (radius : Datum) (miles : Binary64) : Prop :=
  ∃ near far, miles.place? = some near ∧ radius.place? = some far ∧ near ≤ far

namespace Binary64

variable {x y : Binary64} {a b : Line}

theorem isNaN_of_place? (h : x.place? = some a) : x.isNaN = false := by
  cases x with
  | nan => exact nomatch h
  | infinite negative => rfl
  | finite negative units => rfl

/-- Numbers are compared by their places. -/
theorem compares_places (ha : x.place? = some a) (hb : y.place? = some b) :
    ∃ order, x.compare? y = some order ∧ order.Compares a b := by
  have hcompares : ((x.compare? y).getD .eq).Compares a b := Cell.compare_real_real ha hb
  obtain ⟨order, horder⟩ : ∃ order, x.compare? y = some order :=
    ⟨_, Cell.compare?_eq (isNaN_of_place? ha) (isNaN_of_place? hb)⟩
  rw [horder] at hcompares
  exact ⟨order, horder, hcompares⟩

theorem compares_int (ha : x.place? = some a) (i : Int) :
    ∃ order, x.compareInt? i = some order ∧ order.Compares a (Line.ofInt i) := by
  have hcompares : ((x.compareInt? i).getD .eq).Compares a (Line.ofInt i) :=
    Cell.compare_places (x := .real x) (y := .int i) ha rfl
  obtain ⟨order, horder⟩ : ∃ order, x.compareInt? i = some order :=
    ⟨_, Cell.compareInt?_eq (isNaN_of_place? ha) i⟩
  rw [horder] at hcompares
  exact ⟨order, horder, hcompares⟩

/-- Nothing compares with what has no place. -/
theorem eq_nan_of_place? (h : x.place? = none) : x = nan := by
  cases x with
  | nan => rfl
  | infinite negative => exact nomatch h
  | finite negative units => exact nomatch h

theorem compare?_nan (x : Binary64) : x.compare? nan = none := by
  cases x <;> rfl

end Binary64

namespace Schools

/-- Whether a distance is within a radius goes by their places. -/
theorem isWithin_eq {radius : Datum} (hradius : Store.isNumber radius = true) (miles : Binary64) :
    ∃ within, isWithin radius miles = .ok within ∧ (within = true ↔ radius.Reaches miles) := by
  -- an order that agrees with the places
  have hplaced {order? : Option Ordering} {far : Line} (hfar : radius.place? = some far)
      (hplace : ∀ near, miles.place? = some near → ∃ order, order? = some order ∧ order.Compares near far)
      (hnone : miles.place? = none → order? = none) :
      order?.any (· != .gt) = true ↔ radius.Reaches miles := by
    cases hmiles : miles.place? with
    | none =>
      rw [hnone hmiles]
      refine ⟨fun h => absurd h Bool.false_ne_true, ?_⟩
      rintro ⟨near, _, hnear, _⟩
      exact nomatch hmiles.symm.trans hnear
    | some near =>
      obtain ⟨order, rfl, hcompares⟩ := hplace near hmiles
      have hreaches : radius.Reaches miles ↔ near ≤ far := by
        constructor
        · rintro ⟨near', far', hnear', hfar', hle⟩
          cases hmiles.symm.trans hnear'
          cases hfar.symm.trans hfar'
          exact hle
        · exact fun hle => ⟨near, far, hmiles, hfar, hle⟩
      rw [hreaches, ← hcompares.ne_gt]
      simp
  have hnan {i : Int} (hmiles : miles.place? = none) : miles.compareInt? i = none := by
    rw [Binary64.eq_nan_of_place? hmiles]
    rfl
  cases radius with
  | real x =>
    refine ⟨_, rfl, ?_⟩
    cases hx : x.place? with
    | none =>
      obtain rfl := Binary64.eq_nan_of_place? hx
      rw [miles.compare?_nan]
      refine ⟨fun h => absurd h Bool.false_ne_true, ?_⟩
      rintro ⟨_, far, _, hfar, _⟩
      exact nomatch hfar
    | some far =>
      refine hplaced hx (fun near hnear => Binary64.compares_places hnear hx) fun hmiles => ?_
      rw [Binary64.eq_nan_of_place? hmiles]
      rfl
  | int i => exact ⟨_, rfl, hplaced rfl (fun near hnear => Binary64.compares_int hnear i) hnan⟩
  | bool b => exact ⟨_, rfl, hplaced rfl (fun near hnear => Binary64.compares_int hnear _) hnan⟩
  | _ => exact nomatch hradius

end Schools

/-! ## Schools -/

namespace Store

variable {school : Row} {origin : Geo.Location} {radius : Datum} {miles : Binary64}

/-- A school has a location if both of its coordinates are stored. -/
structure Row.Located (school : Row) : Prop where
  latitude : school.cell "latitude" ≠ .null
  longitude : school.cell "longitude" ≠ .null

/-- How far a school lies from a place, by the coordinates that are stored of it. -/
def Row.milesFrom (origin : Geo.Location) (school : Row) : Except Failure Binary64 :=
  Geo.distanceMiles (.real origin.latitude) (.real origin.longitude) (school.cell "latitude").toDatum
    (school.cell "longitude").toDatum

/-- A school lies within a radius, so many miles away. -/
structure Row.Within (origin : Geo.Location) (radius : Datum) (school : Row) (miles : Binary64) : Prop
    where
  located : school.Located
  measured : school.milesFrom origin = .ok miles
  reached : radius.Reaches miles

/-- A school has a location that cannot be measured from a place. -/
structure Row.Strays (origin : Geo.Location) (school : Row) : Prop where
  located : school.Located
  unmeasured : school.milesFrom origin = .error (.refused .outsideDomain)

/-- A coordinate is stored as a number, if it is. -/
theorem coordinate_cases (hfits : school.Fits .schools) (hholds : school.Holds .schools) {name : String}
    (hname : name ∈ ["latitude", "longitude"]) :
    school.cell name = .null ∨ ∃ x, school.cell name = .real x := by
  have hcolumn : ∃ col ∈ Layout.schools.columns, col.name = name ∧ col.affinity = .real := by
    revert name
    decide
  obtain ⟨col, hcol, rfl, haffinity⟩ := hcolumn
  have hkept := hfits.kept col hcol
  have hnumeric := hholds col hcol
  rw [haffinity] at hkept hnumeric
  generalize school.cell col.name = cell at hkept hnumeric
  cases hnumeric with
  | null => exact .inl rfl
  | real x => exact .inr ⟨x, rfl⟩
  | int i =>
    -- a column of reals stores no integer as it is
    obtain ⟨v, _, hstore⟩ := hkept
    rw [Affinity.store] at hstore
    split at hstore
    next => cases hstore
    next hnone => exact absurd hstore (hnone i)

theorem Row.Located.reals (h : school.Located) (hfits : school.Fits .schools)
    (hholds : school.Holds .schools) : ∃ latitude longitude,
      school.cell "latitude" = .real latitude ∧ school.cell "longitude" = .real longitude := by
  obtain ⟨latitude, hlatitude⟩ :=
    (coordinate_cases hfits hholds (List.mem_cons_self ..)).resolve_left h.latitude
  obtain ⟨longitude, hlongitude⟩ := (coordinate_cases hfits hholds
    (List.mem_cons_of_mem _ (List.mem_singleton_self _))).resolve_left h.longitude
  exact ⟨latitude, longitude, hlatitude, hlongitude⟩

/-- A school with a location is measured, or strays. -/
theorem measured_or_strays (h : school.Located) (hfits : school.Fits .schools)
    (hholds : school.Holds .schools) :
    (∃ miles, school.milesFrom origin = .ok miles) ∨ school.Strays origin := by
  obtain ⟨latitude, longitude, hlatitude, hlongitude⟩ := h.reals hfits hholds
  have hmiles : school.milesFrom origin = Geo.distanceMiles (.real origin.latitude)
      (.real origin.longitude) (.real latitude) (.real longitude) := by
    rw [Row.milesFrom, hlatitude, hlongitude]
    rfl
  rcases Geo.distanceMiles_cases origin.latitude origin.longitude latitude longitude with
    ⟨miles, hok⟩ | herror
  · exact .inl ⟨miles, hmiles.trans hok⟩
  · exact .inr ⟨h, hmiles.trans herror⟩

/-- A school at an infinite latitude cannot be measured from anywhere. -/
theorem strays_of_infinite (h : school.Located) (hfits : school.Fits .schools)
    (hholds : school.Holds .schools) {negative : Bool}
    (hlatitude : school.cell "latitude" = .real (.infinite negative)) (origin : Geo.Location) :
    school.Strays origin := by
  obtain ⟨_, longitude, _, hlongitude⟩ := h.reals hfits hholds
  refine ⟨h, ?_⟩
  rw [Row.milesFrom, hlatitude, hlongitude]
  exact Geo.distanceMiles_infinite ..

/-- A coordinate that the record of a school shows. -/
theorem field_coordinate (school : Row) {name : String} (hname : name ∈ ["latitude", "longitude"]) :
    Record.field (school.record .schools .schools) name = (school.cell name).toDatum := by
  have hall : ∀ name ∈ ["latitude", "longitude"], name ∈ Collection.schools.visibleFields ∧
      fieldReference name = .column name ∧ Collection.schools.kind? name ≠ some .flag := by decide
  obtain ⟨hvisible, hreference, hkind⟩ := hall name hname
  rw [field_record .schools school hvisible, hreference, shown, decide_eq_false hkind]
  rfl

theorem isNull_toDatum (cell : Cell) : cell.toDatum.isNull = cell.isNull := by
  cases cell <;> rfl

/-- The distance of a school from a place, as it is found from the record. -/
theorem distanceFrom_record (school : Row) (origin : Geo.Location) :
    (school.Located → Schools.distanceFrom origin (school.record .schools .schools) =
      (school.milesFrom origin).map some) ∧
    (¬ school.Located → Schools.distanceFrom origin (school.record .schools .schools) = .ok none) := by
  have hlatitude := field_coordinate school (List.mem_cons_self .. : "latitude" ∈ _)
  have hlongitude := field_coordinate school
    (List.mem_cons_of_mem _ (List.mem_singleton_self _) : "longitude" ∈ _)
  have hlocated : school.Located ↔
      ¬ ((school.cell "latitude").isNull || (school.cell "longitude").isNull) = true := by
    rw [Bool.or_eq_true, Cell.isNull_iff, Cell.isNull_iff, not_or]
    exact ⟨fun h => ⟨h.latitude, h.longitude⟩, fun h => ⟨h.1, h.2⟩⟩
  unfold Schools.distanceFrom
  dsimp only
  rw [hlatitude, hlongitude, isNull_toDatum, isNull_toDatum]
  exact ⟨fun h => if_neg (hlocated.1 h), fun h => if_pos (not_not.1 (mt hlocated.2 h))⟩

/-- What a search finds of a school: nothing for one that strays, and else the distance of one that is
within the radius. -/
theorem distanceWithin_record (origin : Geo.Location) (hfits : school.Fits .schools)
    (hholds : school.Holds .schools) (hradius : Store.isNumber radius = true) :
    (school.Strays origin → Schools.distanceWithin origin radius (school.record .schools .schools) =
      .error (.refused .outsideDomain)) ∧
    (¬ school.Strays origin → ∃ found,
      Schools.distanceWithin origin radius (school.record .schools .schools) = .ok found ∧
        ∀ miles, found = some miles ↔ school.Within origin radius miles) := by
  obtain ⟨hthere, hnowhere⟩ := distanceFrom_record school origin
  constructor
  · intro hstrays
    rw [Schools.distanceWithin, hthere hstrays.located, hstrays.unmeasured]
    rfl
  · intro hstays
    by_cases hlocated : school.Located
    · obtain ⟨miles, hmiles⟩ := (measured_or_strays hlocated hfits hholds).resolve_right hstays
      obtain ⟨within, hwithin, hreaches⟩ := Schools.isWithin_eq hradius miles
      refine ⟨if within then some miles else none, ?_, fun other => ?_⟩
      · rw [Schools.distanceWithin, hthere hlocated, hmiles]
        show (do
          let within ← Schools.isWithin radius miles
          pure (if within then some miles else none)) = _
        rw [hwithin]
        rfl
      · constructor
        · intro hsome
          split at hsome
          next htrue =>
            obtain rfl := Option.some.inj hsome
            exact ⟨hlocated, hmiles, hreaches.1 htrue⟩
          next => exact nomatch hsome
        · rintro ⟨_, hmeasured, hreached⟩
          obtain rfl := Except.ok.inj (hmiles.symm.trans hmeasured)
          exact if_pos (hreaches.2 hreached)
    · refine ⟨none, ?_, fun miles => ⟨fun h => (nomatch h), fun h => absurd h.located hlocated⟩⟩
      rw [Schools.distanceWithin, hnowhere hlocated]
      rfl

end Store

/-! ## Selections -/

/-- The order in which schools are answered that were found with their distances. -/
def nearer {α : Type} (x y : Binary64 × α) : Bool := (x.1.compare? y.1).getD .eq ≠ .gt

/-- The nearer school comes first, and of two that are as near the one that was published first. -/
def Store.Row.Precedes (origin : Geo.Location) (school other : Row) : Prop :=
  ∃ miles others near far, school.milesFrom origin = .ok miles ∧ other.milesFrom origin = .ok others ∧
    miles.place? = some near ∧ others.place? = some far ∧ (near < far ∨ near = far ∧ school.id < other.id)

/-- Schools that are found with distances that have places, in the order in which they were published,
are sorted by distance first. -/
theorem pairwise_nearer {pairs : List (Binary64 × Row)} (hplaced : ∀ pair ∈ pairs, ∃ place,
    pair.1.place? = some place) (hids : pairs.Pairwise fun x y => x.2.id < y.2.id) :
    (pairs.mergeSort nearer).Pairwise fun x y => ∃ near far, x.1.place? = some near ∧
      y.1.place? = some far ∧ (near < far ∨ near = far ∧ x.2.id < y.2.id) := by
  -- a distance that is no number would not be told apart from any, so that order is taken from the places
  let place (pair : Binary64 × Row) : Line := pair.1.place?.getD ⊥
  let earlier (x y : Binary64 × Row) : Bool := place x ≤ place y
  have hsame : pairs.mergeSort nearer = pairs.mergeSort earlier := by
    have hmap : ∀ x ∈ pairs, ∀ y ∈ pairs, nearer x y = earlier (id x) (id y) := by
      intro x hx y hy
      obtain ⟨near, hnear⟩ := hplaced x hx
      obtain ⟨far, hfar⟩ := hplaced y hy
      obtain ⟨order, horder, hcompares⟩ := Binary64.compares_places hnear hfar
      show decide ((x.1.compare? y.1).getD .eq ≠ .gt) = decide (x.1.place?.getD ⊥ ≤ y.1.place?.getD ⊥)
      rw [horder, hnear, hfar]
      exact decide_eq_decide.2 hcompares.ne_gt
    have hsort := List.map_mergeSort hmap
    rwa [List.map_id, List.map_id] at hsort
  have htrans (a b c : Binary64 × Row) (hab : earlier a b = true) (hbc : earlier b c = true) :
      earlier a c = true :=
    decide_eq_true (le_trans (of_decide_eq_true hab) (of_decide_eq_true hbc))
  have htotal (a b : Binary64 × Row) : (earlier a b || earlier b a) = true := by
    simpa [earlier] using le_total (place a) (place b)
  have hsorted := pairwise_mergeSort_stable htrans htotal hids
  rw [hsame]
  refine hsorted.imp_of_mem fun {x y} hx hy hxy => ?_
  obtain ⟨near, hnear⟩ := hplaced x ((List.mergeSort_perm ..).mem_iff.1 hx)
  obtain ⟨far, hfar⟩ := hplaced y ((List.mergeSort_perm ..).mem_iff.1 hy)
  have hx' : place x = near := by simp only [place, hnear, Option.getD_some]
  have hy' : place y = far := by simp only [place, hfar, Option.getD_some]
  obtain ⟨hle, htie⟩ := hxy
  have hle : near ≤ far := hx' ▸ hy' ▸ of_decide_eq_true hle
  refine ⟨near, far, hnear, hfar, (lt_or_eq_of_le hle).imp_right fun heq => ⟨heq, htie ?_⟩⟩
  exact decide_eq_true (by rw [hx', hy', heq])

namespace Service

variable {around : Surroundings} {state : State} {geocoder : Geo.Geocoder} {zipcode : String}
  {origin : Geo.Location} {radius : Datum}

/-- Every school is looked through, in the order in which the schools were published. -/
theorem found_schools {db : Database} (h : db.Sound) :
    db.found .schools {} = .ok ((db.rows "schools").map (Row.record .schools .schools)) := by
  have hdeclared : ∀ clause ∈ ([] : List Clause), ∀ f, columnOf? clause = some f →
      f ∈ Collection.schools.fieldNames := fun _ hnone => nomatch hnone
  have hbounds : (({} : Selection).statement .schools []).keepsBounds = true := by decide
  have hall : (db.rows "schools").filter (fun row => ([] : List Test).all (Test.holds .schools row)) =
      db.rows "schools" := List.filter_eq_self.2 fun _ _ => rfl
  show db.select .schools [] {} = _
  rw [select_eq h.standing .schools hdeclared, selected, if_pos hbounds]
  show Except.ok (List.map _ (window 0 none (sortRows (rowKeys .schools [])
    ((db.rows "schools").filter fun row => ([] : List Test).all (Test.holds .schools row))))) = _
  have hordered : (db.rows "schools").Pairwise (·.id < ·.id) := h.ordered _ Kept.schools.mem_standard
  rw [hall, sortRows_ordered hordered]
  rfl

/-- A search whose place is known goes through all schools. -/
theorem run_inRadius (h : state.database.Sound)
    (hgeocoder : Geo.Geocoder.ofSettings? around.settings = some geocoder)
    (horigin : Geo.Location.ofReply (.proper zipcode) (around.geocode (.proper zipcode)) = .ok origin) :
    (run (Schools.inRadius zipcode radius) around state).1 =
      ((state.database.rows "schools").mapM fun school =>
        (Schools.distanceWithin origin radius (school.record .schools .schools)).map fun miles =>
          miles.map (·, school.record .schools .schools)).map fun measured =>
            ((measured.filterMap id).mergeSort nearer).map (·.2) := by
  have hlocated : run (locate geocoder (.proper zipcode)) around state =
      (.ok origin, { state with calls := geocoder.call (.proper zipcode) :: state.calls }) := by
    rw [locate, run_bind, run_modify]
    dsimp only
    rw [run_bind, run_read]
    dsimp only
    rw [run_ofExcept, horigin]
  unfold Schools.inRadius
  rw [run_bind, run_read]
  dsimp only
  rw [hgeocoder]
  dsimp only
  rw [run_bind, hlocated]
  dsimp only
  rw [run_bind, run_find, found_schools h]
  dsimp only
  rw [run_bind, run_ofExcept, List.mapM_map]
  simp only [Function.comp_def]
  cases ((state.database.rows "schools").mapM fun school =>
        (Schools.distanceWithin origin radius (school.record .schools .schools)).map fun miles =>
          miles.map (·, school.record .schools .schools)) <;> rfl

/-- A school that strays makes a search fail. -/
theorem run_inRadius_of_strays (h : state.database.Sound) (hholds : state.database.Holds)
    (hgeocoder : Geo.Geocoder.ofSettings? around.settings = some geocoder)
    (horigin : Geo.Location.ofReply (.proper zipcode) (around.geocode (.proper zipcode)) = .ok origin)
    (hradius : Store.isNumber radius = true) {school : Row}
    (hschool : school ∈ state.database.rows "schools") (hstrays : school.Strays origin) :
    (run (Schools.inRadius zipcode radius) around state).1 = .error (.refused .outsideDomain) := by
  have hfound (row : Row) (hrow : row ∈ state.database.rows "schools") :=
    distanceWithin_record origin (h.fits _ Kept.schools.mem_standard row hrow)
      (hholds _ Kept.schools.mem_standard row hrow) hradius
  rw [run_inRadius h hgeocoder horigin]
  cases hmeasured : (state.database.rows "schools").mapM fun school =>
      (Schools.distanceWithin origin radius (school.record .schools .schools)).map fun miles =>
        miles.map (·, school.record .schools .schools) with
  | ok measured =>
    obtain ⟨_, _, hok⟩ := (mapM_ok hmeasured).2 school hschool
    rw [(hfound school hschool).1 hstrays] at hok
    exact nomatch hok
  | error failure =>
    -- the first school that cannot be measured strays as well
    obtain ⟨front, first, back, hsplit, _, hfailure⟩ := mapM_eq_error.1 hmeasured
    have hfirst : first ∈ state.database.rows "schools" := by rw [hsplit]; simp
    by_cases hfirstStrays : first.Strays origin
    · rw [(hfound first hfirst).1 hfirstStrays] at hfailure
      obtain rfl := Except.error.inj hfailure
      rfl
    · obtain ⟨found, hok, _⟩ := (hfound first hfirst).2 hfirstStrays
      rw [hok] at hfailure
      exact nomatch hfailure

/-- The schools within a radius with their distances, in the order in which they were published. -/
def reached (origin : Geo.Location) (radius : Datum) (schools : List Row) : List (Binary64 × Row) :=
  schools.filterMap fun school =>
    (Schools.distanceWithin origin radius (school.record .schools .schools)).toOption.join.map (·, school)

section Reached

variable {schools : List Row}
  (hfits : ∀ school ∈ schools, school.Fits .schools ∧ school.Holds .schools ∧ ¬ school.Strays origin)
  (hradius : Store.isNumber radius = true)

include hfits hradius

theorem distanceWithin_eq {school : Row} (hschool : school ∈ schools) : ∃ found,
    Schools.distanceWithin origin radius (school.record .schools .schools) = .ok found ∧
      ∀ miles, found = some miles ↔ school.Within origin radius miles := by
  obtain ⟨hfits, hholds, hstays⟩ := hfits school hschool
  exact (distanceWithin_record origin hfits hholds hradius).2 hstays

theorem mem_reached {miles : Binary64} {school : Row} : (miles, school) ∈ reached origin radius schools ↔
    school ∈ schools ∧ school.Within origin radius miles := by
  rw [reached, List.mem_filterMap]
  constructor
  · rintro ⟨row, hrow, hsome⟩
    obtain ⟨found, hok, hiff⟩ := distanceWithin_eq hfits hradius hrow
    rw [hok] at hsome
    obtain ⟨_, hfound, heq⟩ := Option.map_eq_some_iff.1 hsome
    obtain ⟨rfl, rfl⟩ := Prod.mk.inj heq
    exact ⟨hrow, (hiff _).1 hfound⟩
  · rintro ⟨hschool, hwithin⟩
    obtain ⟨found, hok, hiff⟩ := distanceWithin_eq hfits hradius hschool
    obtain rfl := (hiff miles).2 hwithin
    exact ⟨school, hschool, by rw [hok]; rfl⟩

/-- The distances that are measured are those of the schools within the radius. -/
theorem measured_eq : ∃ measured,
    (schools.mapM fun school =>
      (Schools.distanceWithin origin radius (school.record .schools .schools)).map fun miles =>
        miles.map (·, school.record .schools .schools)) = .ok measured ∧
    measured.filterMap id = (reached origin radius schools).map fun pair =>
      (pair.1, pair.2.record .schools .schools) := by
  let found (school : Row) : Option Binary64 :=
    (Schools.distanceWithin origin radius (school.record .schools .schools)).toOption.join
  refine ⟨schools.map fun school => (found school).map (·, school.record .schools .schools),
    mapM_eq_map fun school hschool => ?_, ?_⟩
  · obtain ⟨miles, hok, _⟩ := distanceWithin_eq hfits hradius hschool
    dsimp only [found]
    rw [hok]
    rfl
  · rw [reached, List.filterMap_map, List.map_filterMap]
    refine List.filterMap_congr fun school _ => ?_
    show (found school).map _ = ((found school).map _).map _
    rw [Option.map_map]
    rfl

end Reached

/-- Where no school strays, a search answers with those that are within the radius, in order. -/
theorem run_inRadius_of_measured (h : state.database.Sound) (hholds : state.database.Holds)
    (hgeocoder : Geo.Geocoder.ofSettings? around.settings = some geocoder)
    (horigin : Geo.Location.ofReply (.proper zipcode) (around.geocode (.proper zipcode)) = .ok origin)
    (hradius : Store.isNumber radius = true)
    (hstays : ∀ school ∈ state.database.rows "schools", ¬ school.Strays origin) :
    ∃ near : List Row,
      (run (Schools.inRadius zipcode radius) around state).1 =
        .ok (near.map (Row.record .schools .schools)) ∧
      (∀ school, school ∈ near ↔
        school ∈ state.database.rows "schools" ∧ ∃ miles, school.Within origin radius miles) ∧
      near.Pairwise (Row.Precedes origin) := by
  have hfits : ∀ school ∈ state.database.rows "schools", school.Fits .schools ∧
      school.Holds .schools ∧ ¬ school.Strays origin := fun school hschool =>
    ⟨h.fits _ Kept.schools.mem_standard school hschool, hholds _ Kept.schools.mem_standard school hschool,
      hstays school hschool⟩
  obtain ⟨measured, hmeasured, hfound⟩ := measured_eq hfits hradius
  let pairs := reached origin radius (state.database.rows "schools")
  have hmem {miles : Binary64} {school : Row} : (miles, school) ∈ pairs.mergeSort nearer ↔
      school ∈ state.database.rows "schools" ∧ school.Within origin radius miles :=
    (List.mergeSort_perm ..).mem_iff.trans (mem_reached hfits hradius)
  refine ⟨(pairs.mergeSort nearer).map (·.2), ?_, fun school => ?_, ?_⟩
  · have hsort : (measured.filterMap id).mergeSort nearer = (pairs.mergeSort nearer).map fun pair =>
        (pair.1, pair.2.record .schools .schools) := by
      rw [hfound]
      refine (List.map_mergeSort (r := nearer) (f := fun pair : Binary64 × Row =>
        (pair.1, pair.2.record .schools .schools)) fun _ _ _ _ => ?_).symm
      rfl
    rw [run_inRadius h hgeocoder horigin, hmeasured, List.map_map]
    show Except.ok (((measured.filterMap id).mergeSort nearer).map (·.2)) = _
    rw [hsort, List.map_map]
    rfl
  · rw [List.mem_map]
    constructor
    · rintro ⟨⟨miles, row⟩, hpair, rfl⟩
      obtain ⟨hrow, hwithin⟩ := hmem.1 hpair
      exact ⟨hrow, miles, hwithin⟩
    · rintro ⟨hschool, miles, hwithin⟩
      exact ⟨(miles, school), hmem.2 ⟨hschool, hwithin⟩, rfl⟩
  · have hordered : (state.database.rows "schools").Pairwise (·.id < ·.id) :=
      h.ordered _ Kept.schools.mem_standard
    have hids : pairs.Pairwise fun x y => x.2.id < y.2.id := by
      refine hordered.filterMap _ fun row other hlt x hx y hy => ?_
      obtain ⟨_, _, rfl⟩ := Option.map_eq_some_iff.1 hx
      obtain ⟨_, _, rfl⟩ := Option.map_eq_some_iff.1 hy
      exact hlt
    have hplaced : ∀ pair ∈ pairs, ∃ place, pair.1.place? = some place := by
      rintro ⟨miles, row⟩ hpair
      obtain ⟨near, _, hnear, _⟩ := ((mem_reached hfits hradius).1 hpair).2.reached
      exact ⟨near, hnear⟩
    rw [List.pairwise_map]
    refine (pairwise_nearer hplaced hids).imp_of_mem fun {x y} hx hy hxy => ?_
    obtain ⟨near, far, hnear, hfar, horder⟩ := hxy
    exact ⟨x.1, y.1, near, far, (hmem.1 hx).2.measured, (hmem.1 hy).2.measured, hnear, hfar, horder⟩

end Service

namespace Operation

open Service

/-- After every run, a search whose place is known, within a radius that is a number, fails if there is a
school whose location cannot be measured from there, such as one at an infinite latitude. If there is
none, it answers with the schools whose location is stored and whose distance is within the radius, each
once, by distance and then by identity. It changes no record and no file. -/
theorem near_of_run (requests : List (Surroundings × Operation)) {around : Surroundings}
    {geocoder : Geo.Geocoder} (hgeocoder : Geo.Geocoder.ofSettings? around.settings = some geocoder)
    {zipcode : String} {origin : Geo.Location}
    (horigin : Geo.Location.ofReply (.proper zipcode) (around.geocode (.proper zipcode)) = .ok origin)
    {radius : Datum} (hradius : Store.isNumber radius = true) :
    let now := runAll .fresh requests
    let schools := now.database.rows "schools"
    let outcome := run (schoolsInRadius zipcode radius).perform around now
    ((∃ school ∈ schools, school.Strays origin) → outcome.1 = .error (.refused .outsideDomain)) ∧
    ((∀ school ∈ schools, ¬ school.Strays origin) → ∃ near : List Row,
      outcome.1 = .ok (answerRecords (near.map (Row.record .schools .schools))) ∧
      (∀ school, school ∈ near ↔ school ∈ schools ∧ ∃ miles, school.Within origin radius miles) ∧
      near.Nodup ∧ near.Pairwise (Row.Precedes origin)) ∧
    (∀ school ∈ schools, school.Located → ∀ negative,
      school.cell "latitude" = .real (.infinite negative) → school.Strays origin) ∧
    outcome.2.database = now.database ∧ outcome.2.uploads = now.uploads := by
  intro now schools outcome
  have hsound : now.database.Sound := sound_run sound_fresh requests
  have hholds : now.database.Holds := holds_run sound_fresh holds_fresh requests
  have houtcome : outcome.1 =
      (run (Schools.inRadius zipcode radius) around now).1.map answerRecords := by
    show (run (answerRecords <$> Schools.inRadius zipcode radius) around now).1 = _
    rw [run_map]
  refine ⟨?_, fun hstays => ?_, fun school hschool hlocated negative hlatitude => ?_,
    (spares_inRadius lasting_database zipcode radius).map around now,
    (spares_inRadius lasting_uploads zipcode radius).map around now⟩
  · rintro ⟨school, hschool, hstrays⟩
    rw [houtcome, run_inRadius_of_strays hsound hholds hgeocoder horigin hradius hschool hstrays]
    rfl
  · obtain ⟨near, hanswer, hmem, hprecedes⟩ :=
      run_inRadius_of_measured hsound hholds hgeocoder horigin hradius hstays
    refine ⟨near, by rw [houtcome, hanswer]; rfl, hmem, ?_, hprecedes⟩
    have hdiffer : near.Pairwise fun school other => school ≠ other := by
      refine hprecedes.imp ?_
      rintro school _ ⟨miles, others, near, far, hmiles, hothers, hnear, hfar, horder⟩ rfl
      -- a school neither is nearer than itself nor has a lower identity
      obtain rfl := Except.ok.inj (hmiles.symm.trans hothers)
      obtain rfl := Option.some.inj (hnear.symm.trans hfar)
      exact horder.elim (lt_irrefl _) fun htie => Int.lt_irrefl _ htie.2
    exact hdiffer
  · exact strays_of_infinite hlocated (hsound.fits _ Kept.schools.mem_standard school hschool)
      (hholds _ Kept.schools.mem_standard school hschool) hlatitude origin

/-- Surroundings with a geocoder that knows a city and puts one address at no end of north. -/
def edged : Surroundings := { calm with
  geocode := fun address =>
    if address = .proper "02108" then
      .answered (Bytes.ofText "[\x7b\"lat\": \"42.35\", \"lon\": \"-71.06\"\x7d]") 200
    else if address = .proper "North" then
      .answered (Bytes.ofText "[\x7b\"lat\": \"inf\", \"lon\": \"0\"\x7d]") 200
    else .unreachable }

/-- A school is published without a location, and one far in the north. -/
def stretched : List (Surroundings × Operation) :=
  [(edged, .register ⟨"Ada", "ada@example.com", "secret1", "user"⟩),
    (edged, .createSchool ⟨"Devworks", "A school", none, none, none, .proper "1 Main St"⟩ admin),
    (edged, .createSchool ⟨"Polaris", "A school", none, none, none, .proper "North"⟩ admin)]

theorem geocoder_edged : ∃ geocoder, Geo.Geocoder.ofSettings? edged.settings = some geocoder :=
  Option.isSome_iff_exists.1 (by decide)

theorem origin_edged : ∃ origin,
    Geo.Location.ofReply (.proper "02108") (edged.geocode (.proper "02108")) = .ok origin :=
  exists_of_isOk (by decide +kernel)

theorem northern_stretched : ∃ school ∈ (runAll .fresh stretched).database.rows "schools",
    school.cell "latitude" = .real (.infinite false) ∧ school.cell "longitude" ≠ .null := by
  decide +kernel

/-- A search finds nothing while no school has a location, and fails once one is at no end of north. -/
theorem near_of_stretched : ∃ geocoder origin,
    Geo.Geocoder.ofSettings? edged.settings = some geocoder ∧
    Geo.Location.ofReply (.proper "02108") (edged.geocode (.proper "02108")) = .ok origin ∧
    Store.isNumber (.int 10) = true ∧
    (run (schoolsInRadius "02108" (.int 10)).perform edged (runAll .fresh (stretched.take 2))).1 =
      .ok (.list []) ∧
    (run (schoolsInRadius "02108" (.int 10)).perform edged (runAll .fresh stretched)).1 =
      .error (.refused .outsideDomain) := by
  obtain ⟨geocoder, hgeocoder⟩ := geocoder_edged
  obtain ⟨origin, horigin⟩ := origin_edged
  have hnumber : Store.isNumber (.int 10) = true := rfl
  have hnowhere : ∀ school ∈ (runAll .fresh (stretched.take 2)).database.rows "schools",
      school.cell "latitude" = .null := by decide +kernel
  refine ⟨geocoder, origin, hgeocoder, horigin, hnumber, ?_, ?_⟩
  · have hfew := near_of_run (stretched.take 2) hgeocoder horigin hnumber
    obtain ⟨near, hanswer, hmem, _⟩ := hfew.2.1 fun school hschool hstrays =>
      hstrays.located.latitude (hnowhere school hschool)
    have hnone : near = [] := List.eq_nil_iff_forall_not_mem.2 fun school hschool => by
      obtain ⟨hthere, _, hwithin⟩ := (hmem school).1 hschool
      exact hwithin.located.latitude (hnowhere school hthere)
    rw [hanswer, hnone]
    rfl
  · obtain ⟨school, hschool, hlatitude, hlongitude⟩ := northern_stretched
    have hall := near_of_run stretched hgeocoder horigin hnumber
    have hlocated : school.Located := ⟨by rw [hlatitude]; exact nofun, hlongitude⟩
    exact hall.1 ⟨school, hschool, hall.2.2.1 school hschool hlocated false hlatitude⟩

/-- A zip code is found, and still the search for schools around it fails. -/
theorem lost_of_run : (∃ origin,
      Geo.Location.ofReply (.proper "02108") (edged.geocode (.proper "02108")) = .ok origin) ∧
    (run (schoolsInRadius "02108" (.int 10)).perform edged (runAll .fresh stretched)).1 =
      .error (.refused .outsideDomain) := by
  obtain ⟨geocoder, hgeocoder⟩ := geocoder_edged
  obtain ⟨origin, horigin⟩ := origin_edged
  obtain ⟨school, hschool, hlatitude, hlongitude⟩ := northern_stretched
  have hsound : (runAll .fresh stretched).database.Sound := sound_run sound_fresh stretched
  have hholds : (runAll .fresh stretched).database.Holds := holds_run sound_fresh holds_fresh stretched
  have hlocated : school.Located := ⟨by rw [hlatitude]; exact nofun, hlongitude⟩
  have hstrays := strays_of_infinite hlocated (hsound.fits _ Kept.schools.mem_standard school hschool)
    (hholds _ Kept.schools.mem_standard school hschool) hlatitude origin
  have hnumber : Store.isNumber (.int 10) = true := rfl
  have hfails := run_inRadius_of_strays hsound hholds hgeocoder horigin hnumber hschool hstrays
  refine ⟨origin_edged, ?_⟩
  show (run (answerRecords <$> Schools.inRadius "02108" (.int 10)) edged _).1 = _
  rw [run_map, hfails]
  rfl

end Operation
end SchoolCatalog
