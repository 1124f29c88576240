import SchoolCatalog.Proofs.Access.Token

/-!
# How long tokens last

A token is current up to the second in which it ends, and is read as nothing after it, whatever claims it
carries. It ends after the lifetime that was given; a lifetime of zero counts as none, so that the token lasts
as long as the settings say. There is a token wherever the claims have a JSON text, which the time at which
it ends has up to 4300 digits.

Results:
1. `decode_until`: a token for any claims.
2. `until_default`: a token for texts, with no lifetime given.
3. `until_given`: a token for any claims, with a lifetime given.
-/

namespace SchoolCatalog.Token

variable {settings : Settings} {claims : Record} {given : Option Int} {made issued : Int}

/-- Claims that end are read as current until then. -/
theorem current_until {found : Record} {lasts later t : Int}
    (hfound : Json.EntriesReread (expiring claims issued lasts) found) (ht : seconds later = .ok t) :
    current later found = .ok (if t ≤ issued + lasts then some found else none) := by
  have hexp := hfound.field "exp"
  rw [expiring, Record.field_put_self] at hexp
  have hends : Record.field found "exp" = .int (issued + lasts) := by
    generalize Record.field found "exp" = d at hexp ⊢
    cases hexp
    rfl
  rw [current_of_exp hends ht]
  by_cases hle : t ≤ issued + lasts
  · rw [if_pos hle, if_neg (Int.not_lt.2 hle)]
  · rw [if_neg hle, if_pos (Int.not_le.1 hle)]

/-- A token is made for claims that can stand in one, and whoever has its secret reads it until it ends. -/
theorem decode_until (hnames : (Record.names claims).Nodup) (hseconds : seconds made = .ok issued)
    (hfits : Fits (.dict (expiring claims issued (lifetime settings given)))) :
    ∃ token found, create settings made claims given = .ok token ∧
      Json.EntriesReread (expiring claims issued (lifetime settings given)) found ∧
      ∀ (reader : Settings) (later t : Int), reader.secretKey = settings.secretKey →
        seconds later = .ok t → decode reader later token =
          .ok (if t ≤ issued + lifetime settings given then some found else none) := by
  obtain ⟨token, h⟩ := (exists_create hseconds).2 hfits
  obtain ⟨issued', message, found, hseconds', hfound, hdecode⟩ := decode_create hnames h
  obtain rfl := Except.ok.inj (hseconds.symm.trans hseconds')
  refine ⟨token, found, h, hfound, fun reader later t hsecret ht => ?_⟩
  rw [hdecode, hsecret, if_pos rfl]
  exact current_until hfound ht

/-! ## Claims that are texts -/

theorem flat_of_texts {entries : Record} (htexts : ∀ entry ∈ entries, ∃ s, entry.2 = .text s) :
    ∀ entry ∈ entries, Json.Flat entry.2 := by
  intro entry hentry
  obtain ⟨s, hs⟩ := htexts entry hentry
  exact hs ▸ .text s

/-- Texts stand in a token if the time at which it ends is not too long. -/
theorem fits_texts (htexts : ∀ entry ∈ claims, ∃ s, entry.2 = .text s) {lasts : Int} :
    Fits (.dict (expiring claims issued lasts)) ↔ Json.isLongInteger (issued + lasts) = false := by
  constructor
  · rintro ⟨hall, _⟩
    have hexp := Json.entriesHaveText_iff.1 hall _ (Record.mem_put_self claims "exp" _)
    exact Bool.not_eq_true' _ ▸ hexp
  · intro hshort
    refine ⟨Json.entriesHaveText_iff.2 fun entry hentry => ?_,
      Json.nesting_le_of_flat (flat_expiring (flat_of_texts htexts) issued lasts)⟩
    rcases Record.mem_put hentry with hentry | rfl
    · obtain ⟨s, hs⟩ := htexts entry hentry
      rw [hs]
      rfl
    · rw [Json.hasText, hshort, Bool.not_false]

/-- Claims that are too long for a token because of the time at which it ends. -/
theorem create_of_long (htexts : ∀ entry ∈ claims, ∃ s, entry.2 = .text s)
    (hseconds : seconds made = .ok issued)
    (hlong : Json.isLongInteger (issued + lifetime settings given) = true) :
    create settings made claims given = .error (.refused .unwrittenInteger) := by
  have hflat := flat_expiring (flat_of_texts htexts) issued (lifetime settings given)
  refine create_error hseconds ?_
  rw [jsonText, if_neg (Nat.not_lt.2 (Json.nesting_le_of_flat hflat)), Json.render]
  cases htext : Json.renderEntries (expiring claims issued (lifetime settings given)) with
  | error fault =>
    obtain rfl := Json.renderEntries_error hflat htext
    rfl
  | ok texts =>
    have hall := (Json.isOk_renderEntries _).symm.trans (congrArg Except.isOk htext)
    have hexp := Json.entriesHaveText_iff.1 hall _ (Record.mem_put_self claims "exp" _)
    exact absurd hlong (Bool.eq_false_iff.1 (Bool.not_eq_true' _ ▸ hexp))

/-- A token for texts that lasts as long as the settings say is read as these texts and the time at which it
ends until then, and as nothing afterwards; there is none if that time is too long to be written. -/
theorem until_default (hnames : (Record.names claims).Nodup)
    (htexts : ∀ entry ∈ claims, ∃ s, entry.2 = .text s) (hseconds : seconds made = .ok issued) :
    (Json.isLongInteger (issued + settings.accessTokenExpireMinutes * 60) = false →
      ∃ token, create settings made claims none = .ok token ∧
        ∀ (reader : Settings) (later t : Int), reader.secretKey = settings.secretKey →
          seconds later = .ok t → decode reader later token =
            .ok (if t ≤ issued + settings.accessTokenExpireMinutes * 60 then
              some (Record.put claims "exp" (.int (issued + settings.accessTokenExpireMinutes * 60)))
            else none)) ∧
    (Json.isLongInteger (issued + settings.accessTokenExpireMinutes * 60) = true →
      create settings made claims none = .error (.refused .unwrittenInteger)) := by
  refine ⟨fun hshort => ?_, fun hlong => create_of_long htexts hseconds hlong⟩
  have hfits : Fits (.dict (expiring claims issued (lifetime settings none))) := (fits_texts htexts).2 hshort
  obtain ⟨token, found, h, hfound, hdecode⟩ := decode_until hnames hseconds hfits
  obtain rfl := hfound.eq_of_flat (flat_expiring (flat_of_texts htexts) issued (lifetime settings none))
  exact ⟨token, h, hdecode⟩

theorem seconds_small : ∀ t ∈ [0, 1, 60, 61, 2592000, 2592001], seconds t = .ok t := by
  have hall : ∀ t ∈ [0, 1, 60, 61, 2592000, 2592001], (seconds t).toOption = some t := by decide +kernel
  exact fun t ht => toOption_eq_some.1 (hall t ht)

theorem until_thirtyDays : ∃ token, create {} 0 [("sub", .text "Zoë")] none = .ok token ∧
    decode {} 2592000 token = .ok (some [("sub", .text "Zoë"), ("exp", .int 2592000)]) ∧
    decode {} 2592001 token = .ok none := by
  have htexts : ∀ entry ∈ [("sub", Datum.text "Zoë")], ∃ s, entry.2 = .text s :=
    List.forall_mem_singleton.2 ⟨_, rfl⟩
  obtain ⟨token, h, hdecode⟩ :=
    (@until_default {} [("sub", .text "Zoë")] 0 0 (by decide) htexts (seconds_small 0 (by decide))).1
      (by decide +kernel)
  exact ⟨token, h, hdecode {} 2592000 _ rfl (seconds_small _ (by decide)),
    hdecode {} 2592001 _ rfl (seconds_small _ (by decide))⟩

/-- A token that lasts so long that the time at which it ends has 4301 digits. -/
theorem create_of_endless : create { accessTokenExpireMinutes := Nat.pow 10 4299 } 0
    [("sub", .text "1")] none = .error (.refused .unwrittenInteger) :=
  create_of_long (List.forall_mem_singleton.2 ⟨_, rfl⟩) (seconds_small 0 (by decide)) (by decide +kernel)

/-! ## Lifetimes that are given -/

/-- A token with a lifetime of its own is current for so many seconds, unless they are none, which gives it
the lifetime of the settings. There is one if the claims can stand in it. -/
theorem until_given (hnames : (Record.names claims).Nodup) (hseconds : seconds made = .ok issued)
    (lasts : Int) :
    (Fits (.dict (expiring claims issued (lifetime settings (some lasts)))) →
      ∃ token found, create settings made claims (some lasts) = .ok token ∧
        Json.EntriesReread (expiring claims issued (lifetime settings (some lasts))) found ∧
        ∀ (reader : Settings) (later t : Int), reader.secretKey = settings.secretKey →
          seconds later = .ok t → decode reader later token =
            .ok (if t ≤ issued + (if lasts = 0 then settings.accessTokenExpireMinutes * 60 else lasts) then
              some found else none)) ∧
    (¬ Fits (.dict (expiring claims issued (lifetime settings (some lasts)))) →
      ∃ failure, create settings made claims (some lasts) = .error failure) := by
  refine ⟨decode_until hnames hseconds, fun hunfit => ?_⟩
  cases h : create settings made claims (some lasts) with
  | error failure => exact ⟨failure, rfl⟩
  | ok token => exact absurd ((exists_create hseconds).1 ⟨token, h⟩) hunfit

theorem fits_answer (lasts : Int) (h : Json.isLongInteger lasts = false) :
    Fits (.dict (expiring [("sub", .text "42")] 0 lasts)) :=
  (fits_texts (List.forall_mem_singleton.2 ⟨_, rfl⟩)).2 ((Int.zero_add lasts).symm ▸ h)

theorem until_minute : ∃ token found, create {} 0 [("sub", .text "42")] (some 60) = .ok token ∧
    decode {} 60 token = .ok (some found) ∧ decode {} 61 token = .ok none := by
  obtain ⟨token, found, h, _, hdecode⟩ :=
    (@until_given {} [("sub", .text "42")] 0 0 (by decide) (seconds_small 0 (by decide)) 60).1
      (fits_answer 60 (by decide +kernel))
  exact ⟨token, found, h, hdecode {} 60 _ rfl (seconds_small _ (by decide)),
    hdecode {} 61 _ rfl (seconds_small _ (by decide))⟩

/-- A token whose lifetime is zero is still accepted a second later. -/
theorem accepted_after_zero : ∃ token found, create {} 0 [("sub", .text "42")] (some 0) = .ok token ∧
    decode {} 1 token = .ok (some found) := by
  obtain ⟨token, found, h, _, hdecode⟩ :=
    @decode_until {} [("sub", .text "42")] (some 0) 0 0 (by decide) (seconds_small 0 (by decide))
      (fits_answer 2592000 (by decide +kernel))
  exact ⟨token, found, h, hdecode {} 1 _ rfl (seconds_small _ (by decide))⟩

end SchoolCatalog.Token
