import SchoolCatalog.Proofs.Service.Files
import SchoolCatalog.Proofs.Service.Locations
import SchoolCatalog.Proofs.Service.PhotoNames

/-!
# Photos

What becomes of the photos that are sent. An upload that is answered stores its content in a file of its
school and records the name of that file. Nothing but a later upload for the same school touches either:
other operations leave the files alone and write no name of a photo, and another school's files have other
names. But of the two, the file comes first. A later upload whose name cannot be recorded fails, and if
its name has the same bytes as the one that stays recorded, it leaves its own content there.

Results:
1. `Uploads.placed`, `Writes.again`: what an upload that is answered has done, and which uploads can write
   over it.
2. `Uploads.recorded`, `keepsPhoto_of_step`: what a step makes of the name of a photo.
3. `holds_since`: what an event makes true stays true while nothing undoes it.
4. `file_of_last`, `photo_of_last`: files and names of photos after a run.
5. `photos_of_run`: all of this for the last photo of each school.
6. `file_overwritten`: a failure takes away the content of a photo.
-/

namespace SchoolCatalog

open Store Store.Database

namespace Schools

/-! ## Files -/

/-- A file holds a content and no other. -/
def FileHolds (files : List (Bytes × Bytes)) (file content : Bytes) : Prop :=
  ∀ bytes, (file, bytes) ∈ files ↔ bytes = content

variable {files : List (Bytes × Bytes)} {file other content : Bytes}

theorem mem_writeFile {entry : Bytes × Bytes} : entry ∈ writeFile files file content ↔
    (entry ∈ files ∧ entry.1 ≠ file) ∨ entry = (file, content) := by
  simp [writeFile]

theorem fileHolds_writeFile (files : List (Bytes × Bytes)) (file content : Bytes) :
    FileHolds (writeFile files file content) file content := by
  intro bytes
  rw [mem_writeFile]
  constructor
  · rintro (⟨_, hne⟩ | heq)
    · exact absurd rfl hne
    · exact (Prod.mk.inj heq).2
  · rintro rfl
    exact .inr rfl

/-- A file is left alone when another one is written. -/
theorem FileHolds.writeFile (h : FileHolds files file content) (hne : file ≠ other) (bytes : Bytes) :
    FileHolds (Schools.writeFile files other bytes) file content := by
  intro found
  rw [mem_writeFile]
  constructor
  · rintro (⟨hfound, _⟩ | heq)
    · exact (h found).1 hfound
    · exact absurd (Prod.mk.inj heq).1 hne
  · rintro rfl
    exact .inl ⟨(h found).2 rfl, hne⟩

end Schools

open Service

namespace Operation

variable {around : Surroundings} {db : Database} {state : State} {operation : Operation}
  {request : Surroundings × Operation} {s : Int} {name : Wording} {file content : Bytes}

/-! ## Uploads -/

/-- The operation is an upload for a school that is answered with the name of its file. -/
inductive Uploads (around : Surroundings) (state : State) : Operation → Int → Wording → Bytes → Prop
  | uploadPhoto {s : Int} {filename : Option Wording} {contentType : Option String} {content : Bytes}
      {caller : Caller} {name : Wording} :
      (Service.run (Schools.uploadPhoto (.int s) filename contentType content caller) around state).1 =
        .ok name →
      Uploads around state (uploadPhoto (.int s) filename contentType content caller) s name content

theorem Uploads.not_fails (h : operation.Uploads around state s name content) :
    ¬ operation.Fails around state := by
  obtain ⟨hrun⟩ := h
  exact not_fails_of_answered hrun

/-- The operation names a school that it uploads for by an integer. -/
def IdsWhole : Operation → Prop
  | uploadPhoto id _ _ _ _ => ∃ s, id = .int s
  | _ => True

/-- A file that is stored is that of a name for a school that is there. -/
theorem Stores.named_for {filename : Option Wording} {contentType : Option String} {caller : Caller}
    (hstores : Stores around db (.int s) filename contentType content caller file) :
    (Schools.photoName (.int s) filename).encodeName = .ok file ∧
      Schools.IsPhotoName s (Schools.photoName (.int s) filename) ∧
      ∃ old ∈ db.rows "schools", old.id = s := by
  obtain ⟨old, hold⟩ := hstores.allowed
  exact ⟨Schools.encodeName_of_fileName hstores.named, Schools.isPhotoName_photoName s filename,
    old, hold.mem, hold.denotes.eq_of_int.symm⟩

/-- What an upload has done that is answered with a text. -/
structure Placed (around : Surroundings) (db : Database) (operation : Operation) (s : Int)
    (text : String) (content : Bytes) : Prop where
  writes : operation.Writes around db (Bytes.ofText text) content
  named : Schools.IsPhotoName s (.proper text)
  present : ∃ old ∈ db.rows "schools", old.id = s

/-- Where updates do not get lost, an upload that is answered stores its content under a text. -/
theorem Uploads.placed (h : state.database.Sound) (working : around.losesUpdates = false)
    (hup : operation.Uploads around state s name content) :
    ∃ text, name = .proper text ∧ operation.Placed around state.database s text content := by
  obtain @⟨_, filename, contentType, _, caller, _, hrun⟩ := hup
  rcases @stores_or_refused around state h (.int s) filename contentType content caller with
    ⟨file, hstores⟩ | ⟨failure, hrefused⟩
  · obtain ⟨hencoded, hnamed, hpresent⟩ := Stores.named_for hstores
    cases hname : Schools.photoName (.int s) filename with
    | broken points => exact nomatch (hstores.stranded h working hname).symm.trans hrun
    | proper text =>
      rw [hname] at hencoded hnamed
      obtain rfl := Except.ok.inj hencoded
      obtain rfl := Except.ok.inj ((hstores.answered h hname).symm.trans hrun)
      exact ⟨text, rfl, .uploadPhoto hstores, hnamed, hpresent⟩
  · rw [hrefused] at hrun
    exact nomatch hrun

/-- A later upload into the file of a photo is one for the same school, and is answered unless its name
is no text. -/
theorem Writes.again (h : state.database.Sound) (hwhole : operation.IdsWhole)
    (hwrites : operation.Writes around state.database file content) (hs : 0 ≤ s)
    (hnamed : Schools.IsPhotoName s name) (hfile : name.encodeName = .ok file) :
    (∃ answer, operation.Uploads around state s answer content) ∨
      operation.Strands around state.database file content := by
  obtain @⟨id, filename, contentType, _, _, caller, hstores⟩ := hwrites
  obtain ⟨t, rfl⟩ := hwhole
  obtain ⟨hencoded, hother, old, hold, hid⟩ := Stores.named_for hstores
  have ht : 0 < t := hid ▸ (h.numbered _ Kept.schools.mem_standard old hold).1
  obtain rfl := hnamed.eq_of_file hs (Int.le_of_lt ht) hfile hother hencoded
  cases hname : Schools.photoName (.int s) filename with
  | broken points => exact .inr (.uploadPhoto hstores hname)
  | proper text => exact .inl ⟨.proper text, .uploadPhoto (hstores.answered h hname)⟩

/-! ## The name of a photo -/

theorem no_photo {change : SchoolChange} {school values : Record}
    (h : ChangedSchool around change school values) (d : Datum) : ("photo", d) ∉ values := by
  obtain ⟨location, rfl, _, hlocation⟩ := h.eq_append
  intro hd
  rcases List.mem_append.1 hd with hd | hd
  · have hname : "photo" ∈ _ := (names_change change).subset (List.mem_map_of_mem hd)
    exact absurd hname (by decide)
  · have hname : "photo" ∈ _ := hlocation _ (List.mem_map_of_mem hd)
    exact absurd hname (by decide)

/-- A school has the photo that it had before, or is new. -/
def KeepsPhoto (db : Database) (school : Row) : Prop :=
  (∃ old ∈ db.rows "schools", old.id = school.id ∧ school.cell "photo" = old.cell "photo") ∨
    db.greatestHandedOut "schools" < school.id

/-- An operation that is no upload writes no name of a photo. -/
theorem keepsPhoto_of_perform (h : db.Sound) (operation : Operation)
    (hother : ∀ id filename contentType content caller,
      operation ≠ .uploadPhoto id filename contentType content caller) :
    Achieves around db operation.perform fun _ after =>
      ∀ school ∈ after.rows "schools", KeepsPhoto db school := by
  have hl := Kept.schools.mem_standard
  cases operation with
  | uploadPhoto id filename contentType content caller => exact absurd rfl (hother _ _ _ _ _)
  | updateSchool id change caller =>
    refine Achieves.map ((achieves_updateSchool h id change caller).weaken ?_)
    rintro _ after ⟨old, row, values, hold, hvalues, hamends, rfl, _⟩ school hschool
    rcases mem_amended h hl hl hschool with ⟨hthere, _⟩ | ⟨_, rfl⟩
    · exact .inl ⟨school, hthere, rfl, rfl⟩
    · exact .inl ⟨old, hold.mem, hamends.same.symm, hamends.cell_eq photo_mem (no_photo hvalues)⟩
  | _ =>
    refine (effect_of_perform h _).weaken ?_
    rintro _ after ⟨effect, hmay, _, _, hleaves⟩ school hschool
    have hnone : ∀ m old row, effect = .amend m old row → m.name ≠ "schools" := by
      cases hmay <;> rintro m old row ⟨⟩ <;> decide
    obtain ⟨between, hid, hcells, hbefore | rfl | ⟨old, _, _, hamends⟩⟩ :=
      hleaves.mem_school h hschool
    · exact .inl ⟨between, hbefore, hid.symm, hcells "photo" (by decide)⟩
    · obtain ⟨mid, hmakes, _⟩ := hleaves
      cases hmakes with
      | add _ hnext _ => exact .inr (hid ▸ hnext ▸ Int.lt_succ _)
    · exact absurd rfl (hnone _ _ _ hamends)

/-- An upload that is answered records the name of its file for its school only. -/
theorem photos_of_upload (h : db.Sound) (working : around.losesUpdates = false) (s : Int)
    (filename : Option Wording) (contentType : Option String) (content : Bytes) (caller : Caller) :
    Achieves around db (Schools.uploadPhoto (.int s) filename contentType content caller) fun name after =>
      ∀ school ∈ after.rows "schools",
        if school.id = s then ∃ text, name = .proper text ∧ school.cell "photo" = .text text
        else school ∈ db.rows "schools" := by
  refine (achieves_uploadPhoto h (.int s) filename contentType content caller).weaken ?_
  rintro name after ⟨old, hold, ⟨hlost, _⟩ | ⟨row, hamends, rfl⟩⟩ school hschool
  · exact absurd (hlost.symm.trans working) (by decide)
  have hl := Kept.schools.mem_standard
  have hid : row.id = s := hamends.same.trans hold.denotes.eq_of_int.symm
  rcases mem_amended h hl hl hschool with ⟨hthere, hne⟩ | ⟨_, rfl⟩
  · rw [if_neg (hid ▸ hne rfl)]
    exact hthere
  · rw [if_pos hid]
    have hstores := hamends.stores .schools (nodup_single _ _) (fun _ hentry => hentry)
      (List.forall_mem_singleton.2 ⟨photo, photo_mem, rfl⟩)
    exact hstores.wording rfl

/-- After an upload that is answered, its school has the photo that the answer names. -/
theorem Uploads.recorded (h : state.database.Sound) (working : request.1.losesUpdates = false)
    (hup : request.2.Uploads request.1 state s name content) :
    ∀ school ∈ (step state request).database.rows "schools", school.id = s →
      ∃ text, name = .proper text ∧ school.cell "photo" = .text text := by
  intro school hschool hid
  obtain ⟨around, operation⟩ := request
  obtain @⟨_, filename, contentType, _, caller, _, hrun⟩ := hup
  rw [step_uploadPhoto] at hschool
  have hphotos := (photos_of_upload h working s filename contentType content caller).of_run rfl hrun
    school hschool
  rwa [if_pos hid] at hphotos

/-- A school keeps its photo in a step that answers no upload for it. -/
theorem keepsPhoto_of_step (h : state.database.Sound) (working : request.1.losesUpdates = false)
    (hwhole : request.2.IdsWhole) {school : Row}
    (hschool : school ∈ (step state request).database.rows "schools")
    (hnone : ¬ ∃ name content, request.2.Uploads request.1 state school.id name content) :
    KeepsPhoto state.database school := by
  obtain ⟨around, operation⟩ := request
  rcases upload_or_other operation with ⟨id, filename, contentType, content, caller, rfl⟩ | hother
  · obtain ⟨s, rfl⟩ := hwhole
    rw [step_uploadPhoto] at hschool
    have hphotos := photos_of_upload h working s filename contentType content caller
    refine .inl ⟨school, ?_, rfl, rfl⟩
    cases hrun : (Service.run (Schools.uploadPhoto (.int s) filename contentType content caller) around
        state).1 with
    | error failure => exact hphotos.of_failed rfl hrun ▸ hschool
    | ok name =>
      have hthere := hphotos.of_run rfl hrun school hschool
      rwa [if_neg] at hthere
      rintro rfl
      exact hnone ⟨name, content, .uploadPhoto hrun⟩
  · have hkeeps := @keepsPhoto_of_perform around state.database h operation hother
    rcases @step_of_achieves state (around, operation) _ hkeeps with hsame | ⟨_, hdone⟩
    · exact .inl ⟨school, hsame ▸ hschool, rfl, rfl⟩
    · exact hdone school hschool

/-! ## Events of a run -/

variable {requests : List (Surroundings × Operation)} {n : Nat}
  {p : State → Surroundings × Operation → Prop}

/-- What is so of a request of a run, at its place in the run and in the state that it meets. -/
def At (requests : List (Surroundings × Operation)) (n : Nat)
    (p : State → Surroundings × Operation → Prop) : Prop :=
  ∃ request, requests[n]? = some request ∧ p (runAll .fresh (requests.take n)) request

theorem At.lt (h : At requests n p) : n < requests.length := by
  obtain ⟨request, hrequest, _⟩ := h
  exact (List.getElem?_eq_some_iff.1 hrequest).1

theorem at_concat : At (requests ++ [request]) n p ↔
    At requests n p ∨ n = requests.length ∧ p (runAll .fresh requests) request := by
  rcases Nat.lt_trichotomy n requests.length with hlt | rfl | hgt
  · simp only [At, List.getElem?_append_left hlt, List.take_append_of_le_length (Nat.le_of_lt hlt),
      Nat.ne_of_lt hlt, false_and, or_false]
  · simp [At]
  · refine iff_of_false (fun h => ?_) ?_
    · have hbefore := h.lt
      rw [List.length_append] at hbefore
      exact Nat.not_lt.2 hgt hbefore
    · rintro (h | ⟨rfl, _⟩)
      · exact Nat.lt_asymm hgt h.lt
      · exact Nat.lt_irrefl _ hgt

/-- Of what happens in a run, there is a last time. -/
theorem exists_last (h : At requests n p) : ∃ m, At requests m p ∧ ∀ k, m < k → ¬ At requests k p := by
  induction requests using List.reverseRecOn with
  | nil => exact absurd h.lt (Nat.not_lt_zero n)
  | append_singleton requests request ih =>
    by_cases hlast : p (runAll .fresh requests) request
    · refine ⟨requests.length, at_concat.2 (.inr ⟨rfl, hlast⟩), fun k hk hat => ?_⟩
      rcases at_concat.1 hat with hat | ⟨rfl, _⟩
      · exact Nat.lt_asymm hk hat.lt
      · exact Nat.lt_irrefl _ hk
    · rcases at_concat.1 h with hat | ⟨_, hp⟩
      · obtain ⟨m, hm, hlater⟩ := ih hat
        refine ⟨m, at_concat.2 (.inl hm), fun k hk hat => ?_⟩
        rcases at_concat.1 hat with hat | ⟨_, hp⟩
        · exact hlater k hk hat
        · exact hlast hp
      · exact absurd hp hlast

/-- What an event makes true stays true while no other undoes it. -/
theorem holds_since (inv : State → Prop) (q : State → Surroundings × Operation → Prop)
    (hstarts : ∀ state, ∀ request ∈ requests, state.database.Sound → p state request →
      inv (step state request))
    (hkeeps : ∀ state, ∀ request ∈ requests, state.database.Sound → inv state → ¬ q state request →
      inv (step state request))
    (hat : At requests n p) (hsince : ∀ m, n < m → ¬ At requests m q) :
    inv (runAll .fresh requests) := by
  induction requests using List.reverseRecOn with
  | nil => exact absurd hat.lt (Nat.not_lt_zero n)
  | append_singleton requests request ih =>
    have hsound : (runAll .fresh requests).database.Sound := sound_run sound_fresh requests
    have hlast : request ∈ requests ++ [request] := List.mem_append_right _ (List.mem_singleton_self _)
    rw [runAll_concat]
    rcases at_concat.1 hat with hbefore | ⟨_, hp⟩
    · have hinv := ih (fun state r hr => hstarts state r (List.mem_append_left _ hr))
        (fun state r hr => hkeeps state r (List.mem_append_left _ hr)) hbefore
        fun m hm h => hsince m hm (at_concat.2 (.inl h))
      refine hkeeps _ request hlast hsound hinv fun hq => ?_
      exact hsince requests.length hbefore.lt (at_concat.2 (.inr ⟨rfl, hq⟩))
    · exact hstarts _ request hlast hsound hp

/-- An upload for a school is answered at a place in a run. -/
def UploadedAt (requests : List (Surroundings × Operation)) (n : Nat) (s : Int) (name : Wording)
    (content : Bytes) : Prop :=
  At requests n fun state request => request.2.Uploads request.1 state s name content

/-- An upload is stranded at a place in a run. -/
def StrandedAt (requests : List (Surroundings × Operation)) (n : Nat) (file content : Bytes) : Prop :=
  At requests n fun state request => request.2.Strands request.1 state.database file content

/-- An upload stores a content in a file at a place in a run. -/
def WrittenAt (requests : List (Surroundings × Operation)) (n : Nat) (file content : Bytes) : Prop :=
  At requests n fun state request => request.2.Writes request.1 state.database file content

/-- The file that was written last holds what was written then. -/
theorem file_of_last (hat : WrittenAt requests n file content)
    (hlast : ∀ m, n < m → ∀ bytes, ¬ WrittenAt requests m file bytes) :
    Schools.FileHolds (runAll .fresh requests).uploads file content := by
  refine holds_since (fun state => Schools.FileHolds state.uploads file content)
    (fun state request => ∃ bytes, request.2.Writes request.1 state.database file bytes) ?_ ?_ hat ?_
  · rintro state ⟨around, _⟩ _ hsound ⟨hstores⟩
    rw [uploads_of_stores hsound hstores]
    exact Schools.fileHolds_writeFile _ _ _
  · intro state request _ hsound hholds hnone
    rcases uploads_of_step hsound request with ⟨other, bytes, hwrites, huploads⟩ | huploads
    · rw [huploads]
      refine hholds.writeFile ?_ bytes
      rintro rfl
      exact hnone ⟨bytes, hwrites⟩
    · rwa [huploads]
  · rintro m hm ⟨request, hrequest, bytes, hwrites⟩
    exact hlast m hm bytes ⟨request, hrequest, hwrites⟩

/-- A school has the photo of the last upload for it that was answered. -/
theorem photo_of_last (working : Working requests) (hwhole : ∀ request ∈ requests, request.2.IdsWhole)
    {text : String} (hat : UploadedAt requests n s (.proper text) content)
    (hlast : ∀ m, n < m → ∀ name bytes, ¬ UploadedAt requests m s name bytes) :
    ∀ school ∈ (runAll .fresh requests).database.rows "schools", school.id = s →
      school.cell "photo" = .text text := by
  -- the identity of the school is never handed out again, so that no new school gets it
  let inv (state : State) : Prop := s ≤ state.database.greatestHandedOut "schools" ∧
    ∀ school ∈ state.database.rows "schools", school.id = s → school.cell "photo" = .text text
  have hl := Kept.schools.mem_standard
  have hinv : inv (runAll .fresh requests) := by
    refine holds_since inv (fun state request => ∃ name bytes,
      request.2.Uploads request.1 state s name bytes) ?_ ?_ hat ?_
    · intro state request hrequest hsound hup
      obtain ⟨_, _, hplaced⟩ := hup.placed hsound (working request hrequest)
      obtain ⟨old, hold, rfl⟩ := hplaced.present
      obtain ⟨effect, _, _, _, hleaves⟩ := effect_of_step hsound request
      refine ⟨Int.le_trans (hsound.numbered _ hl old hold).2 (hleaves.handedOut_le "schools"), ?_⟩
      intro school hschool hid
      obtain ⟨_, hsame, hcell⟩ := hup.recorded hsound (working request hrequest) school hschool hid
      obtain rfl := Wording.proper.inj hsame
      exact hcell
    · rintro state request hrequest hsound ⟨hgiven, hphoto⟩ hnone
      obtain ⟨effect, _, _, _, hleaves⟩ := effect_of_step hsound request
      refine ⟨Int.le_trans hgiven (hleaves.handedOut_le "schools"), ?_⟩
      rintro school hschool rfl
      rcases keepsPhoto_of_step hsound (working request hrequest) (hwhole request hrequest) hschool
        hnone with ⟨old, hold, hid, hcell⟩ | hnew
      · exact hcell.trans (hphoto old hold hid)
      · exact absurd hgiven (Int.not_le.2 hnew)
    · rintro m hm ⟨request, hrequest, name, bytes, hup⟩
      exact hlast m hm name bytes ⟨request, hrequest, hup⟩
  exact hinv.2

/-- What is stored under the name of a photo was sent for its school: by an upload that was answered, or
by one that was stranded. -/
theorem written_cases (hwhole : ∀ request ∈ requests, request.2.IdsWhole) (hs : 0 ≤ s)
    (hnamed : Schools.IsPhotoName s name) (hfile : name.encodeName = .ok file)
    (hat : WrittenAt requests n file content) :
    (∃ answer, UploadedAt requests n s answer content) ∨ StrandedAt requests n file content := by
  obtain ⟨request, hrequest, hwrites⟩ := hat
  have hsound : (runAll .fresh (requests.take n)).database.Sound := sound_run sound_fresh _
  rcases hwrites.again hsound (hwhole request (List.mem_of_getElem? hrequest)) hs hnamed hfile with
    ⟨answer, hup⟩ | hstrands
  · exact .inl ⟨answer, request, hrequest, hup⟩
  · exact .inr ⟨request, hrequest, hstrands⟩

theorem StrandedAt.written (h : StrandedAt requests n file content) :
    WrittenAt requests n file content := by
  obtain ⟨⟨around, _⟩, hrequest, ⟨hstores, _⟩⟩ := h
  exact ⟨_, hrequest, .uploadPhoto hstores⟩

/-- What is known of an upload of a run that is answered. -/
theorem UploadedAt.placed (working : Working requests) (hat : UploadedAt requests n s name content) :
    ∃ text, name = .proper text ∧ 0 < s ∧ Schools.IsPhotoName s (.proper text) ∧
      WrittenAt requests n (Bytes.ofText text) content := by
  obtain ⟨request, hrequest, hup⟩ := hat
  have hsound : (runAll .fresh (requests.take n)).database.Sound := sound_run sound_fresh _
  obtain ⟨text, rfl, hplaced⟩ := hup.placed hsound (working request (List.mem_of_getElem? hrequest))
  obtain ⟨old, hold, rfl⟩ := hplaced.present
  exact ⟨text, rfl, (hsound.numbered _ Kept.schools.mem_standard old hold).1, hplaced.named,
    request, hrequest, hplaced.writes⟩

/-- A file holds what was stored in it last, in the state right after. -/
theorem WrittenAt.holds (hat : WrittenAt requests n file content) :
    Schools.FileHolds (runAll .fresh (requests.take (n + 1))).uploads file content := by
  obtain ⟨request, hrequest, hstores⟩ := hat
  have hsound : (runAll .fresh (requests.take n)).database.Sound := sound_run sound_fresh _
  rw [List.take_add_one, hrequest, Option.toList_some, runAll_concat]
  obtain ⟨around, _⟩ := request
  obtain ⟨hstores⟩ := hstores
  rw [uploads_of_stores hsound hstores]
  exact Schools.fileHolds_writeFile _ _ _

/-- The last upload of a run that is answered for a school. -/
structure LastUpload (requests : List (Surroundings × Operation)) (n : Nat) (s : Int) (text : String)
    (content : Bytes) : Prop where
  uploaded : UploadedAt requests n s (.proper text) content
  last : ∀ m, n < m → ∀ name bytes, ¬ UploadedAt requests m s name bytes

/-- After a place in a run, no upload is stranded that stores its content in a file. -/
def Unstranded (requests : List (Surroundings × Operation)) (n : Nat) (file : Bytes) : Prop :=
  ∀ m, n < m → ∀ bytes, ¬ StrandedAt requests m file bytes

/-- A school that got photos got a last one. -/
theorem exists_lastUpload (working : Working requests) (hat : UploadedAt requests n s name content) :
    ∃ m text bytes, LastUpload requests m s text bytes := by
  obtain ⟨request, hrequest, hup⟩ := hat
  have hsome : At requests n fun state request => ∃ name bytes,
      request.2.Uploads request.1 state s name bytes := ⟨request, hrequest, name, content, hup⟩
  obtain ⟨m, ⟨last, hlast, answer, bytes, hanswered⟩, hlater⟩ := exists_last hsome
  have huploaded : UploadedAt requests m s answer bytes := ⟨last, hlast, hanswered⟩
  obtain ⟨text, rfl, _⟩ := huploaded.placed working
  refine ⟨m, text, bytes, huploaded, fun k hk name bytes hagain => ?_⟩
  obtain ⟨request, hrequest, hup⟩ := hagain
  exact hlater k hk ⟨request, hrequest, name, bytes, hup⟩

/-- The file of the last photo holds what was last stored in it, by that upload or a stranded one. -/
theorem LastUpload.fileHolds (working : Working requests)
    (hwhole : ∀ request ∈ requests, request.2.IdsWhole) {text : String} {m : Nat} {bytes : Bytes}
    (h : LastUpload requests n s text content) (hnm : n ≤ m)
    (hwritten : WrittenAt requests m (Bytes.ofText text) bytes)
    (hsince : Unstranded requests m (Bytes.ofText text)) :
    Schools.FileHolds (runAll .fresh requests).uploads (Bytes.ofText text) bytes := by
  obtain ⟨_, hsame, hs, hnamed, _⟩ := h.uploaded.placed working
  obtain rfl := Wording.proper.inj hsame
  refine file_of_last hwritten fun k hk later hlater => ?_
  rcases written_cases hwhole (Int.le_of_lt hs) hnamed rfl hlater with ⟨answer, hup⟩ | hstranded
  · exact h.last k (Nat.lt_of_le_of_lt hnm hk) answer later hup
  · exact hsince k hk later hstranded

/-! ## Results -/

/-- An upload for the school, under a name that ends in an accented letter. -/
def picture : Operation :=
  .uploadPhoto (.int 1) (some (.proper "a.é")) (some "image/png") [7] admin

/-- The school gets a photo. -/
def pictured : List (Surroundings × Operation) := opening ++ [(calm, picture)]

/-- After that, an upload is stranded whose name has the same bytes. -/
def overwritten : List (Surroundings × Operation) := opening ++ [(calm, picture), (calm, halved)]

theorem uploadedAt_picture (rest : List (Surroundings × Operation)) :
    UploadedAt (opening ++ (calm, picture) :: rest) 2 1 (.proper "photo_1.é") [7] := by
  have hanswer : ((Service.run (Schools.uploadPhoto (.int 1) (some (.proper "a.é")) (some "image/png")
      [7] admin) calm (runAll .fresh opening)).1).toOption = some (.proper "photo_1.é") := by
    decide +kernel
  exact ⟨(calm, picture), rfl, .uploadPhoto (toOption_eq_some.1 hanswer)⟩

/-- After every run in which no update gets lost and uploads name their schools by integers: each upload
that is answered has stored its content in a file of the folder, under the identity of the school and an
extension. Answers for different schools are different. A school that got photos has the name of the last
one, and the file of that name holds its content, unless an upload was stranded later whose name has the
same bytes; then the file holds the content of the last one of these. -/
theorem photos_of_run (requests : List (Surroundings × Operation)) (working : Working requests)
    (hwhole : ∀ request ∈ requests, request.2.IdsWhole) :
    let final := runAll .fresh requests
    (∀ n s name content, UploadedAt requests n s name content →
      ∃ ext, Schools.IsExtension (.proper ext) ∧ name = .proper ("photo_" ++ toString s ++ ext) ∧
        '/'.toNat ∉ name.points ∧ ∃ file, name.encodeName = .ok file ∧ 0x2F ∉ file ∧
          Schools.FileHolds (runAll .fresh (requests.take (n + 1))).uploads file content) ∧
    (∀ n s name content m t other bytes, UploadedAt requests n s name content →
      UploadedAt requests m t other bytes → s ≠ t → name ≠ other) ∧
    ∀ school ∈ final.database.rows "schools",
      (∃ n name content, UploadedAt requests n school.id name content) →
      ∃ n text content, LastUpload requests n school.id text content ∧
        school.cell "photo" = .text text ∧
        (Unstranded requests n (Bytes.ofText text) →
          Schools.FileHolds final.uploads (Bytes.ofText text) content) ∧
        ∀ m bytes, n < m → StrandedAt requests m (Bytes.ofText text) bytes →
          Unstranded requests m (Bytes.ofText text) →
          Schools.FileHolds final.uploads (Bytes.ofText text) bytes := by
  intro final
  refine ⟨?_, ?_, ?_⟩
  · intro n s name content hat
    obtain ⟨text, rfl, _, hnamed, hwritten⟩ := hat.placed working
    obtain ⟨ext, hext, rfl⟩ := hnamed.extension
    exact ⟨ext, hext, rfl, hnamed.no_slash, _, rfl, hnamed.no_slash_file rfl, hwritten.holds⟩
  · intro n s name content m t other bytes hat hother hne hsame
    obtain ⟨text, rfl, hs, hnamed, _⟩ := hat.placed working
    obtain ⟨_, rfl, ht, hnamed', _⟩ := hother.placed working
    obtain rfl := Wording.proper.inj hsame
    exact hne (hnamed.eq_of_file (Int.le_of_lt hs) (Int.le_of_lt ht) rfl hnamed' rfl)
  · rintro school hschool ⟨first, name, bytes, hfirst⟩
    obtain ⟨n, text, content, hlast⟩ := exists_lastUpload working hfirst
    obtain ⟨_, hsame, _, _, hwritten⟩ := hlast.uploaded.placed working
    obtain rfl := Wording.proper.inj hsame
    refine ⟨n, text, content, hlast, ?_, ?_, ?_⟩
    · exact photo_of_last working hwhole hlast.uploaded hlast.last school hschool rfl
    · exact hlast.fileHolds working hwhole (Nat.le_refl n) hwritten
    · intro m bytes hm hstranded
      exact hlast.fileHolds working hwhole (Nat.le_of_lt hm) hstranded.written

theorem photos_of_pictured :
    Working pictured ∧ (∀ request ∈ pictured, request.2.IdsWhole) ∧
    let final := runAll .fresh pictured
    ∃ school ∈ final.database.rows "schools", ∃ n text content,
      LastUpload pictured n school.id text content ∧ school.cell "photo" = .text text ∧
        Schools.FileHolds final.uploads (Bytes.ofText text) content := by
  have working : Working pictured := by decide
  have hwhole : ∀ request ∈ pictured, request.2.IdsWhole := by
    simp [pictured, opening, picture, IdsWhole]
  have hunstranded (n : Nat) (file : Bytes) : Unstranded pictured n file := by
    rintro m _ bytes ⟨request, hrequest, hstrands⟩
    have hmem := List.mem_of_getElem? hrequest
    simp only [pictured, opening, List.cons_append, List.nil_append, List.mem_cons, List.not_mem_nil,
      or_false] at hmem
    rcases hmem with rfl | rfl | rfl
    · exact nomatch hstrands
    · exact nomatch hstrands
    · have hproper : Schools.photoName (.int 1) (some (.proper "a.é")) = .proper "photo_1.é" := by
        decide
      obtain ⟨_, hname⟩ := hstrands
      exact nomatch hproper.symm.trans hname
  obtain ⟨school, hschool, hid⟩ : ∃ school ∈ (runAll .fresh pictured).database.rows "schools",
      school.id = 1 := by decide +kernel
  obtain ⟨n, text, content, hlast, hcell, hholds, _⟩ :=
    (photos_of_run pictured working hwhole).2.2 school hschool ⟨2, _, _, hid ▸ uploadedAt_picture []⟩
  exact ⟨working, hwhole, school, hschool, n, text, content, hlast, hcell, hholds (hunstranded n _)⟩

/-- A school keeps the name of its last photo, but not the content: the upload that was stranded later
left its own. -/
theorem file_overwritten :
    let final := runAll .fresh overwritten
    Working overwritten ∧ LastUpload overwritten 2 1 "photo_1.é" [7] ∧
      (∃ school ∈ final.database.rows "schools",
        school.id = 1 ∧ school.cell "photo" = .text "photo_1.é") ∧
      ¬ Schools.FileHolds final.uploads (Bytes.ofText "photo_1.é") [7] := by
  have hrun : halved.Fails calm (runAll .fresh pictured) ∧
      (runAll .fresh overwritten).uploads = [(Bytes.ofText "photo_1.é", [1, 2, 3])] ∧
      ∃ school ∈ (runAll .fresh overwritten).database.rows "schools",
        school.id = 1 ∧ school.cell "photo" = .text "photo_1.é" := by
    decide +kernel
  obtain ⟨hfails, hfiles, hphoto⟩ := hrun
  refine ⟨by decide, ⟨uploadedAt_picture _, fun m hm name bytes hat => ?_⟩, hphoto, ?_⟩
  · -- the only request that comes later fails
    have hend : m < 4 := hat.lt
    obtain rfl : m = 3 := by omega
    obtain ⟨request, hrequest, hup⟩ := hat
    obtain rfl := Option.some.inj hrequest
    exact hup.not_fails hfails
  · intro hholds
    have hmem := (hholds [7]).2 rfl
    rw [hfiles] at hmem
    exact absurd (Prod.mk.inj (List.mem_singleton.1 hmem)).2 (by decide)

end Operation

end SchoolCatalog
