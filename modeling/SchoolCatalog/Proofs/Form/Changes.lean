import SchoolCatalog.Proofs.Form.Reading
import SchoolCatalog.Proofs.Json.Values

/-!
# What changes take from forms

A change has a value for exactly those of its fields that the form gives a value other than null, and
that value is the one given, as it is read. Whatever else the form holds is not looked at. The numbers of
a form that was read from a JSON text are numbers of the format, so the tuition of a change is one.

Results:
1. `Given`, `taken_courseChange` and its like: the fields of a change beside those of a form.
2. `tuition_of_payload`: what the tuition of a change may be.
-/

namespace SchoolCatalog

namespace Form

variable {entries : Record} {name : String}

/-! ## Fields beside each other -/

/-- The fields of a form that a change looks at, each with the reader of its value. -/
abbrev Schema := List (String × Reader Datum)

/-- What a change takes for a field: nothing if the form leaves it out or gives it as null, or else the
value that the form gives, as it is read. -/
inductive Given (entries : Record) : String × Reader Datum → String × Option Datum → Prop
  | omitted {name : String} {reader : Reader Datum} : entries.get? name = none →
      Given entries (name, reader) (name, none)
  | null {name : String} {reader : Reader Datum} : entries.get? name = some .null →
      Given entries (name, reader) (name, none)
  | value {name : String} {reader : Reader Datum} {d value : Datum} : entries.get? name = some d →
      d ≠ .null → reader d = .ok value → Given entries (name, reader) (name, some value)

/-- A change takes exactly what a form gives for the fields of a schema. -/
def Schema.Taken (schema : Schema) (entries : Record) (fields : List (String × Option Datum)) : Prop :=
  List.Forall₂ (Given entries) schema fields

theorem optional_of_ne {α : Type} {reader : Reader α} {d : Datum} (h : d ≠ .null) :
    optional reader d = (reader d).map some := by
  cases d with
  | null => exact absurd rfl h
  | _ => rfl

/-- A field that may be left out is read as it is given. -/
theorem given_of_maybe {α : Type} {reader : Reader α} {a : Option α} (f : α → Datum)
    (h : maybe entries name reader = .ok a) :
    Given entries (name, fun d => f <$> reader d) (name, a.map f) := by
  unfold maybe withDefault at h
  cases hd : entries.get? name with
  | none =>
    rw [hd] at h
    cases h
    exact .omitted hd
  | some d =>
    rw [hd] at h
    have hread : optional reader d = .ok a := under_ok h
    by_cases hnull : d = .null
    · subst hnull
      cases hread
      exact .null hd
    · rw [optional_of_ne hnull] at hread
      obtain ⟨value, hvalue, rfl⟩ := map_ok hread
      refine .value hd hnull ?_
      show f <$> reader d = _
      rw [hvalue]
      rfl

end Form

open Form

variable {entries : Record}

/-! ## The schemas -/

def SchoolChange.schema : Schema :=
  [("name", fun d => .text <$> textUpTo 50 d), ("description", fun d => .text <$> textUpTo 500 d),
    ("website", fun d => .text <$> webAddress d), ("phone", fun d => .text <$> textUpTo 20 d),
    ("email", fun d => .text <$> mailAddress d), ("address", fun d => .ofWording <$> wording d)]

def CourseChange.schema : Schema :=
  [("title", fun d => .text <$> textFrom 1 d), ("description", fun d => .text <$> textFrom 1 d),
    ("weeks", fun d => .text <$> textFrom 1 d), ("tuition", fun d => .real <$> numberFrom 0 d),
    ("scholarship_available", fun d => .bool <$> flag d)]

def ReviewChange.schema : Schema :=
  [("title", fun d => .text <$> textUpTo 100 d), ("text", fun d => .ofWording <$> wording d),
    ("rating", fun d => .int <$> readRating d)]

def AccountChange.schema : Schema :=
  [("name", fun d => .text <$> textFrom 1 d), ("email", fun d => .text <$> mailAddress d),
    ("role", fun d => .text <$> choice allRoles d), ("password", fun d => .text <$> textFrom 6 d)]

theorem taken_schoolChange {change : SchoolChange} (h : SchoolChange.read entries = .ok change) :
    SchoolChange.schema.Taken entries change.fields := by
  obtain ⟨_, address, hmailed, haddress, rfl⟩ := seq_ok h
  obtain ⟨_, email, hphoned, hemail, rfl⟩ := seq_ok hmailed
  obtain ⟨_, phone, hlinked, hphone, rfl⟩ := seq_ok hphoned
  obtain ⟨_, website, hnamed, hwebsite, rfl⟩ := seq_ok hlinked
  obtain ⟨name, description, hname, hdescription, rfl⟩ := map_seq_ok hnamed
  exact .cons (given_of_maybe _ hname) (.cons (given_of_maybe _ hdescription)
    (.cons (given_of_maybe _ hwebsite) (.cons (given_of_maybe _ hphone)
      (.cons (given_of_maybe _ hemail) (.cons (given_of_maybe _ haddress) .nil)))))

theorem taken_courseChange {change : CourseChange} (h : CourseChange.read entries = .ok change) :
    CourseChange.schema.Taken entries change.fields := by
  obtain ⟨_, scholarship, hpriced, hscholarship, rfl⟩ := seq_ok h
  obtain ⟨_, tuition, hnamed, htuition, rfl⟩ := seq_ok hpriced
  obtain ⟨_, weeks, hdescribed, hweeks, rfl⟩ := seq_ok hnamed
  obtain ⟨title, description, htitle, hdescription, rfl⟩ := map_seq_ok hdescribed
  exact .cons (given_of_maybe _ htitle) (.cons (given_of_maybe _ hdescription)
    (.cons (given_of_maybe _ hweeks) (.cons (given_of_maybe _ htuition)
      (.cons (given_of_maybe _ hscholarship) .nil))))

theorem taken_reviewChange {change : ReviewChange} (h : ReviewChange.read entries = .ok change) :
    ReviewChange.schema.Taken entries change.fields := by
  obtain ⟨_, rating, hnamed, hrating, rfl⟩ := seq_ok h
  obtain ⟨title, text, htitle, htext, rfl⟩ := map_seq_ok hnamed
  exact .cons (given_of_maybe _ htitle) (.cons (given_of_maybe _ htext)
    (.cons (given_of_maybe _ hrating) .nil))

theorem taken_accountChange {change : AccountChange} (h : AccountChange.read entries = .ok change) :
    AccountChange.schema.Taken entries change.fields := by
  obtain ⟨_, password, hranked, hpassword, rfl⟩ := seq_ok h
  obtain ⟨_, role, hnamed, hrole, rfl⟩ := seq_ok hranked
  obtain ⟨name, email, hname, hemail, rfl⟩ := map_seq_ok hnamed
  exact .cons (given_of_maybe _ hname) (.cons (given_of_maybe _ hemail)
    (.cons (given_of_maybe _ hrole) (.cons (given_of_maybe _ hpassword) .nil)))

/-! ## Numbers of a form -/

/-- A number, or a record of fields, in which numbers are those of the format. -/
def Datum.Doubles : Datum → Prop
  | .real x => x.IsDouble
  | .dict entries => ∀ entry ∈ entries, ∀ x, entry.2 = .real x → x.IsDouble
  | _ => True

theorem Json.inherited_doubles : Json.Inherited Datum.Doubles where
  null := trivial
  bool _ := trivial
  int _ := trivial
  real h := h
  wording w := by cases w <;> exact trivial
  list _ := trivial
  dict h entry hentry x hx := by
    have hdoubles := h entry hentry
    rwa [hx] at hdoubles

/-- A number is read as one of the format, unless it is given as one that is not. -/
theorem Form.isDouble_number {d : Datum} {x : Binary64} (h : number d = .ok x)
    (hgiven : ∀ y, d = .real y → y.IsDouble) : x.IsDouble := by
  have htext {s : String} (hs : numberOfText s = .ok x) : x.IsDouble := by
    unfold numberOfText at hs
    dsimp only at hs
    split at hs
    next y hscan =>
      cases hs
      rcases (Option.orElse_eq_some _ _ _).1 hscan with hplain | ⟨_, hjoined⟩
      · exact Number.isDouble_scanNumber hplain
      · obtain ⟨_, _, hjoined⟩ := Option.bind_eq_some_iff.1 hjoined
        exact Number.isDouble_scanNumber hjoined
    next => exact nomatch hs
  have hby (hs : byText numberOfText .notNumber d = .ok x) : x.IsDouble := by
    unfold byText at hs
    split at hs
    · exact htext hs
    · exact nomatch hs
    · exact nomatch hs
  -- with a variable in its place, the conversion of an integer is not computed when the match reduces
  obtain ⟨whole, hwhole⟩ : ∃ whole, whole = Binary64.ofInt? := ⟨_, rfl⟩
  unfold number at h
  rw [← hwhole] at h
  cases d with
  | bool b =>
    rw [← Checked.ok.inj h]
    exact Binary64.isDouble_ofInt _
  | int i =>
    dsimp only at h
    split at h
    next y hy => exact Checked.ok.inj h ▸ Binary64.isDouble_of_ofInt? (hwhole ▸ hy)
    next => exact nomatch h
  | real y => exact Checked.ok.inj h ▸ hgiven y rfl
  | null | text | broken | bytes | list | dict => exact hby h

/-- The tuition that a change takes from a JSON text needs no rounding, unless it is infinite or a zero
with a sign. -/
theorem tuition_of_payload {payload : Wording} {change : CourseChange} {tuition : Binary64}
    (hpayload : Json.parseWording payload = .ok (.dict entries))
    (h : CourseChange.read entries = .ok change) (hsome : change.tuition = some tuition) :
    tuition.Rounded ∨ tuition = .infinite false ∨ tuition = .finite true 0 := by
  obtain ⟨_, scholarship, hpriced, _, rfl⟩ := seq_ok h
  obtain ⟨_, given, hnamed, hgiven, rfl⟩ := seq_ok hpriced
  obtain ⟨_, weeks, hdescribed, _, rfl⟩ := seq_ok hnamed
  obtain ⟨title, description, _, _, rfl⟩ := map_seq_ok hdescribed
  obtain rfl : given = some tuition := hsome
  have hdoubles : Datum.Doubles (.dict entries) :=
    Json.yields_parse Json.inherited_doubles payload _ hpayload
  cases given_of_maybe Datum.real hgiven with
  | @value _ _ d _ hd _ hvalue =>
    obtain ⟨x, hread, hx⟩ := map_ok hvalue
    obtain rfl := Datum.real.inj hx
    obtain ⟨hnumber, htest⟩ := checking_ok hread
    have hdouble := isDouble_number hnumber fun y hy => hdoubles _ (mem_of_lookup hd) y hy
    split at htest
    next => exact nomatch htest
    next o hne hcompare => exact hdouble.of_nonnegative hcompare hne
    next => exact nomatch htest

end SchoolCatalog
