import SchoolCatalog.Proofs.Bytes.Utf8
import SchoolCatalog.Proofs.Http.Login
import SchoolCatalog.Proofs.Json.Records
import SchoolCatalog.Proofs.Service.Conflicts

/-!
# A table that is full

Identities are never handed out twice, so that they can be used up: an admin who publishes one school
after another ends with a table that has no identity for a new one, and then publishing fails, whatever
the new school is.

Results:
1. `asks_publishing`: a request to publish a school under a number.
2. `filled_filling`: what there is after a number of them.
3. `unavailable_of_filled`: publishing when the identities are used up.
-/

namespace SchoolCatalog

open Store Store.Database

namespace Http

open Service

/-- Surroundings for long runs: the clock stands still, and there is no geocoder. -/
def still : Surroundings :=
  { Operation.calm with instant := fun _ => 0, settings := { geocoderProvider := "off" } }

theorem ordinary_still : still.Ordinary where
  stamps _ := (by decide : (stamp? 0).isSome = true)
  iterations := by decide
  working := rfl
  unlocating := by decide

/-- A text of digits, as long as a school's name may be. -/
structure IsNumber (s : String) : Prop where
  digits : ∀ c ∈ s.toList, c.isDigit = true
  filled : s ≠ ""
  short : s.length ≤ 50

theorem isNumber_toString {n : Nat} (h : (n : Int) ≤ Number.greatestWord) : IsNumber (toString n) := by
  have hshort : (Nat.toDigits 10 n).length ≤ 50 := by
    have hword : Number.greatestWord < 10 ^ 50 := by decide
    exact (Nat.length_toDigits_le_iff (by decide) (by decide)).2 (by omega)
  rw [Number.toString_nat]
  constructor
  · rw [String.toList_ofList]
    exact Number.isDigit_toDigits n
  · exact fun hempty => Nat.toDigits_ne_nil (String.ofList_eq_empty_iff.1 hempty)
  · rwa [String.length_ofList]

/-- The values in a request to publish a school. -/
def naming (name : String) : Record :=
  [("name", .text name), ("description", .text "A school"), ("address", .text "1 Main St")]

/-- The school that is to be published. -/
def schoolNamed (name : String) : SchoolDraft :=
  ⟨name, "A school", none, none, none, .proper "1 Main St"⟩

variable {name : String}

theorem read_naming (h : IsNumber name) : SchoolDraft.read (naming name) = .ok (schoolNamed name) := by
  have htrim : Text.trim name = name := by
    have htrim := Number.trim_digits h.digits
    rwa [String.ofList_toList] at htrim
  have hempty : name.isEmpty = false := by simpa [String.isEmpty_iff] using h.filled
  have hname : Form.required (naming name) "name" (Form.filled (Form.textUpTo 50)) = .ok name := by
    have hlength : decide (name.length ≤ 50) = true := decide_eq_true h.short
    have hread : Form.textUpTo 50 (.text name) = .ok name := by
      rw [Form.textUpTo, Form.checking, show Form.text (.text name) = .ok name from rfl]
      dsimp only
      rw [hlength, if_pos rfl]
    show Form.Checked.under "name" (Form.filled (Form.textUpTo 50) (.text name)) = _
    rw [Form.filled, hread]
    dsimp only
    rw [htrim, hempty]
    rfl
  rw [SchoolDraft.read, hname]
  rfl

/-- The body of a request to publish a school. -/
def schoolText (name : String) : String :=
  "\x7b\"name\":\"" ++ name ++ "\",\"description\":\"A school\",\"address\":\"1 Main St\"\x7d"

theorem ofText_schoolText (name : String) : ∃ rest, Bytes.ofText (schoolText name) =
    0x7B :: 0x22 :: 0x6E :: 0x61 :: rest := by
  have hfront : Bytes.ofText "\x7b\"name\":\"" =
      [0x7B, 0x22, 0x6E, 0x61, 0x6D, 0x65, 0x22, 0x3A, 0x22] := by
    decide +kernel
  rw [schoolText, String.append_assoc, Bytes.ofText_append, hfront]
  exact ⟨_, rfl⟩

theorem lenient_schoolText (name : String) :
    Json.Encoding.lenient (Bytes.ofText (schoolText name)) = .utf8 := by
  obtain ⟨rest, hbytes⟩ := ofText_schoolText name
  rw [hbytes]
  rfl

theorem render_naming (h : IsNumber name) :
    Json.render (.dict (naming name)) = .ok (schoolText name) := by
  have hquoted : Json.quote "name" = "\"name\"" ∧ Json.quote "description" = "\"description\"" ∧
      Json.quote "address" = "\"address\"" ∧ Json.quote "A school" = "\"A school\"" ∧
      Json.quote "1 Main St" = "\"1 Main St\"" := by
    decide +kernel
  obtain ⟨hname, hdescription, haddress, hschool, hstreet⟩ := hquoted
  show Except.ok ("\x7b" ++ ",".intercalate [Json.quote "name" ++ ":" ++ Json.quote name,
    Json.quote "description" ++ ":" ++ Json.quote "A school",
    Json.quote "address" ++ ":" ++ Json.quote "1 Main St"] ++ "\x7d") = .ok (schoolText name)
  refine congrArg Except.ok (String.toList_injective ?_)
  rw [Json.quote_digits h.digits, hname, hdescription, haddress, hschool, hstreet, schoolText]
  simp [String.intercalate_cons_cons, String.intercalate_singleton]

theorem payload_publishing (h : IsNumber name) :
    Endpoint.createSchool.payload (publishing name) = .ok (.value (.dict (naming name))) := by
  have hflat : ∀ entry ∈ naming name, Json.Flat entry.2 := by
    simp only [naming, List.forall_mem_cons]
    exact ⟨.text _, .text _, .text _, nofun⟩
  have hparse : Json.parse (schoolText name) = .ok (.dict (naming name)) :=
    Json.parse_render hflat (by decide : ["name", "description", "address"].Nodup) (render_naming h)
  have hread : Payload.ofJson (Bytes.ofText (schoolText name)) = .ok (.value (.dict (naming name))) := by
    have hdecode : (Json.Encoding.utf8.decode? (Bytes.ofText (schoolText name))).map Json.parseWording =
        some (.ok (.dict (naming name))) := by
      rw [Json.Encoding.decode?, Bytes.toText?_ofText]
      exact congrArg some hparse
    rw [Payload.ofJson, lenient_schoolText, hdecode]
  have hfilled : (Bytes.ofText (schoolText name)).isEmpty = false := by
    obtain ⟨rest, hbytes⟩ := ofText_schoolText name
    rw [hbytes]
    rfl
  have htype : isJsonType (Bytes.toLatin1 (Bytes.ofText "application/json")) = true := by decide +kernel
  show (if (Bytes.ofText (schoolText name)).isEmpty then Except.ok Payload.absent
    else if isJsonType (Bytes.toLatin1 (Bytes.ofText "application/json")) then
      Payload.ofJson (Bytes.ofText (schoolText name))
    else .ok .unread) = _
  rw [hfilled, htype]
  exact hread

/-- Publishing a school as an admin. -/
def publish (name : String) : Operation := .createSchool (schoolNamed name) Operation.admin

/-- What Ada asks for when she publishes a school under a number. -/
theorem asks_publishing {db : Database} (hadmin : db.IsAdmin 1) (h : IsNumber name) :
    (publishing name).Asks still db .createSchool (publish name) := by
  have hleads : (publishing name).LeadsTo .createSchool [] :=
    (by decide +kernel : resolve "POST" (unescape "/api/v1/schools") = .endpoint .createSchool [])
  have hasks : (publishing name).Asks Operation.calm db .createSchool (publish name) :=
    asks_asking (naming name) hadmin (rfl : Endpoint.createSchool.guard = _) (by decide) hleads
      (payload_publishing h) (congrArg
        (fun checked => (fun draft => some (Operation.createSchool draft Operation.admin)) <$> checked)
        (read_naming h))
  obtain ⟨parameters, payload, caller, hleads, hpayload, hadmits, hoperation⟩ := hasks
  exact ⟨parameters, payload, caller, hleads, hpayload, hadmits.of_named rfl, hoperation⟩

/-! ## Filling a table -/

/-- Ada registers and publishes a number of schools, each under its number. -/
def filling (n : Nat) : List (Surroundings × Request) :=
  (Operation.calm, joining) :: (List.range n).map fun k => (still, publishing (toString k))

/-- What there is when schools were published under the numbers below one. -/
structure Filled (db : Database) (n : Nat) : Prop where
  admin : db.IsAdmin 1
  handedOut : db.greatestHandedOut "schools" = n
  named : ∀ school ∈ db.rows "schools", ∃ k < n, school.cell "name" = .text (toString k)

variable {db : Database} {n : Nat}

theorem Filled.ready (h : Filled db n) (name : String) : (publish name).Ready db := by
  obtain ⟨user, huser, hid, _⟩ := h.admin
  exact ⟨user, huser, hid ▸ Datum.denotes_int (by decide)⟩

theorem Filled.uncontested (h : Filled db n) : ¬ (publish (toString n)).Contested db := by
  rintro ⟨school, hschool, hsame⟩
  obtain ⟨k, hk, hname⟩ := h.named school hschool
  have heq := Number.toString_injective (Cell.text.inj (hname.symm.trans hsame))
  omega

theorem formed_publish (h : IsNumber name) : (publish name).Formed := ⟨naming name, read_naming h⟩

theorem allowed_publish (db : Database) (name : String) : ¬ (publish name).Barred db :=
  fun hbarred => nomatch hbarred.1

theorem clear_publish (name : String) : ¬ Garbled (publish name).payload := by
  rintro ⟨entry, hentry, points, hbroken⟩
  simp only [publish, Operation.payload, schoolNamed, SchoolDraft.record, List.mem_cons,
    List.not_mem_nil, or_false] at hentry
  rcases hentry with rfl | rfl | rfl | rfl | rfl | rfl <;> cases hbroken

/-- A school that is published has the name of its draft. -/
theorem name_of_published {around : Surroundings} {draft : SchoolDraft} {caller : Caller}
    {fields : Record} {school : Row} (hlocated : Located around draft.address fields)
    (hadds : db.Adds .schools .schools (newSchool draft fields caller) school) :
    school.cell "name" = .text draft.name := by
  obtain ⟨heq, hnodup⟩ := newSchool_eq draft caller hlocated.names
  rw [heq] at hadds
  have hstores : school.Stores .schools [("name", .text draft.name)] := by
    refine hadds.stores .schools hnodup ?_ ?_
    · simp [SchoolDraft.record]
    · exact List.forall_mem_singleton.2
        (by decide : "name" ≠ "created_at" ∧ ∃ col ∈ Layout.schools.columns, col.name = "name")
  exact hstores.text (List.mem_singleton_self _) (by decide)

/-- Where no school has a name, and there is room, a school is published under it. -/
theorem Filled.publishes {state : State} (h : state.database.Sound) (hfilled : Filled state.database n)
    (hroom : (n : Int) < Number.greatestWord) :
    ∃ answer, (run (publish (toString n)).perform still state).1 = .ok answer := by
  have hverdict := meets_perform h ordinary_still (hfilled.ready (toString n))
    (formed_publish (isNumber_toString (Int.le_of_lt hroom))) (allowed_publish _ _) state rfl
  cases hresult : (run (publish (toString n)).perform still state).1 with
  | ok answer => exact ⟨answer, rfl⟩
  | error failure =>
    rw [hresult] at hverdict
    cases hverdict with
    | garbled hgarbled => exact absurd hgarbled (clear_publish _)
    | full _ hfull =>
      obtain ⟨_, hadds, hfull⟩ := hfull
      obtain rfl := Option.some.inj hadds
      exact absurd (hfilled.handedOut.symm.trans hfull) (Int.ne_of_lt hroom)
    | contested _ _ hcontested => exact absurd hcontested hfilled.uncontested

/-- As long as there is room a school is published under the next number. -/
theorem Filled.next {state : State} (h : state.database.Sound) (hfilled : Filled state.database n)
    (hroom : (n : Int) < Number.greatestWord) :
    Filled (Operation.step state (still, publish (toString n))).database (n + 1) := by
  obtain ⟨answer, hanswer⟩ := hfilled.publishes h hroom
  have hachieves : Achieves still state.database (publish (toString n)).perform fun _ after =>
      ∃ fields school, Located still (.proper "1 Main St") fields ∧
        state.database.Adds .schools .schools
          (newSchool (schoolNamed (toString n)) fields Operation.admin) school ∧
        after = state.database.grown .schools school := by
    refine Achieves.map ((achieves_createSchool h _ _).weaken ?_)
    rintro _ _ ⟨_, fields, school, hlocated, hadds, hafter, _⟩
    exact ⟨fields, school, hlocated, hadds, hafter⟩
  obtain ⟨fields, school, hlocated, hadds, hafter⟩ := hachieves.of_run rfl hanswer
  have hschools := Kept.schools.mem_standard
  rw [show (Operation.step state (still, publish (toString n))).database = _ from hafter]
  constructor
  · obtain ⟨user, huser, hid, hrole⟩ := hfilled.admin
    exact ⟨user, mem_rows_grown h hschools school Kept.users.mem_standard huser, hid, hrole⟩
  · have hnext := hadds.next
    refine (greatestHandedOut_grown (by omega) Layout.schools.name).trans ?_
    rw [if_pos rfl, hnext, show state.database.greatestHandedOut Layout.schools.name = n from
      hfilled.handedOut]
    rfl
  · intro other hother
    rcases mem_grown h hschools hschools hother with hother | ⟨_, rfl⟩
    · obtain ⟨k, hk, hname⟩ := hfilled.named other hother
      exact ⟨k, Nat.lt_succ_of_lt hk, hname⟩
    · exact ⟨n, Nat.lt_succ_self n, name_of_published hlocated hadds⟩

theorem filled_filling (h : (n : Int) ≤ Number.greatestWord) :
    Filled (serveAll .fresh (filling n)).database n := by
  induction n with
  | zero =>
    have hjoined : serveAll .fresh (filling 0) = Operation.step .fresh (Operation.calm, joined) :=
      serveAll_joining
    rw [hjoined]
    exact ⟨by decide, by decide, by decide⟩
  | succ n ih =>
    have hroom : (n : Int) < Number.greatestWord := by omega
    have hfilled := ih (Int.le_of_lt hroom)
    have hsound : (serveAll .fresh (filling n)).database.Sound := sound_serveAll sound_fresh _
    have hlast : filling (n + 1) = filling n ++ [(still, publishing (toString n))] := by
      simp [filling, List.range_succ]
    rw [hlast, serveAll_concat, step_of_asks hsound
      (asks_publishing hfilled.admin (isNumber_toString (Int.le_of_lt hroom)))]
    exact hfilled.next hsound hroom

/-- How many identities a table has. -/
def capacity : Nat := Number.greatestWord.toNat

theorem capacity_eq : (capacity : Int) = Number.greatestWord := by decide

theorem filled_capacity : Filled (serveAll .fresh (filling capacity)).database capacity :=
  filled_filling (Int.le_of_eq capacity_eq)

theorem formed_capacity : (publish (toString capacity)).Formed :=
  formed_publish (isNumber_toString (Int.le_of_eq capacity_eq))

/-- When the identities are used up nothing can be published. -/
theorem unavailable_of_filled :
    (run (publish (toString capacity)).perform still (serveAll .fresh (filling capacity))).1 =
      .error .unavailable := by
  have hfilled := filled_capacity
  have hsound : (serveAll .fresh (filling capacity)).database.Sound := sound_serveAll sound_fresh _
  generalize serveAll .fresh (filling capacity) = now at hfilled hsound
  have hverdict := meets_perform hsound ordinary_still (hfilled.ready (toString capacity))
    formed_capacity (allowed_publish _ _) now rfl
  have hnone : ∃ name, (publish (toString capacity)).adds? = some name ∧ now.database.IsFull name :=
    ⟨"schools", rfl, hfilled.handedOut.trans capacity_eq⟩
  generalize (run (publish (toString capacity)).perform still now).1 = result at hverdict
  cases hverdict with
  | garbled hgarbled => exact absurd hgarbled (clear_publish _)
  | full => rfl
  | contested _ hroom => exact absurd hnone hroom
  | free _ hroom => exact absurd hnone hroom

end Http
end SchoolCatalog
