import SchoolCatalog.Access.Token
import SchoolCatalog.Proofs.Bytes.Base64Url
import SchoolCatalog.Proofs.Bytes.Utf8
import SchoolCatalog.Proofs.Json.Records
import SchoolCatalog.Proofs.Lists

/-!
# Tokens read back

A token is made for claims that have a JSON text and are not too deep to be read. It is read as claims under
the same names and the time at which it ends, with the secret that it was signed with; claims that are texts
and integers are read as they are. With another secret it is read as the same claims or not at all.

Results:
1. `exists_create`: for which claims there is a token.
2. `decode_create`, `decode_flat`: how a token is read.
3. `decode_of_lasts`, `claims_of_decode`: when it is read, and as what.
-/

namespace SchoolCatalog

/-! ## Pieces -/

namespace Text

variable {p : Char → Bool} {cs rest : List Char} {separator : Char}

theorem splitList_of_none (h : ∀ c ∈ cs, p c = false) : splitList p cs = [cs] := by
  induction cs with
  | nil => rfl
  | cons c cs ih =>
    rw [splitList, h c (List.mem_cons_self ..), if_neg (by decide),
      ih fun d hd => h d (List.mem_cons_of_mem _ hd)]

theorem splitList_append (h : ∀ c ∈ cs, p c = false) (hsep : p separator = true) :
    splitList p (cs ++ separator :: rest) = cs :: splitList p rest := by
  induction cs with
  | nil => rw [List.nil_append, splitList, if_pos hsep]
  | cons c cs ih =>
    rw [List.cons_append, splitList, h c (List.mem_cons_self ..), if_neg (by decide),
      ih fun d hd => h d (List.mem_cons_of_mem _ hd)]

theorem toList_dot : ".".toList = ['.'] := rfl

/-- Three pieces without dots, with dots between them. -/
theorem split_dots {first second third : String} (hfirst : '.' ∉ first.toList)
    (hsecond : '.' ∉ second.toList) (hthird : '.' ∉ third.toList) :
    split '.' (first ++ "." ++ second ++ "." ++ third) = [first, second, third] := by
  have hnone {s : String} (hs : '.' ∉ s.toList) : ∀ c ∈ s.toList, (c == '.') = false := by
    intro c hc
    exact beq_eq_false_iff_ne.2 fun hdot => hs (hdot ▸ hc)
  have hchars : (first ++ "." ++ second ++ "." ++ third).toList =
      first.toList ++ '.' :: (second.toList ++ '.' :: third.toList) := by
    simp only [String.toList_append, toList_dot, List.append_assoc, List.cons_append, List.nil_append]
  rw [split, hchars, splitList_append (hnone hfirst) (by decide),
    splitList_append (hnone hsecond) (by decide), splitList_of_none (hnone hthird)]
  simp only [List.map_cons, List.map_nil, String.ofList_toList]

end Text

namespace Token

open Bytes

variable {settings : Settings} {now : Int} {claims : Record} {given : Option Int} {token : String}

theorem encode_no_dot (bytes : Bytes) : '.' ∉ (Base64Url.encode bytes).toList :=
  fun h => absurd (Base64Url.isSymbol_of_mem h) (by decide)

theorem part_no_dot (text : String) : '.' ∉ (part text).toList := encode_no_dot _

/-- The claims in a part that was written for them. -/
theorem claimsOf_part {text : String} (h : Json.parse text = .ok (.dict claims)) :
    claimsOf (part text) = .ok (some claims) := by
  rw [claimsOf, part, Base64Url.decode_encode]
  dsimp only
  rw [toText?_ofText, Option.map_some, h]

/-- A value that can stand in a token: it has a JSON text and is not too deep to be read. -/
def Fits (d : Datum) : Prop := Json.hasText d = true ∧ Json.nesting d ≤ Json.maxDepth

instance (d : Datum) : Decidable (Fits d) :=
  inferInstanceAs (Decidable (Json.hasText d = true ∧ Json.nesting d ≤ Json.maxDepth))

theorem jsonText_ok {d : Datum} {text : String} (h : jsonText d = .ok text) :
    Json.nesting d ≤ Json.maxDepth ∧ Json.render d = .ok text := by
  unfold jsonText at h
  split at h
  next => exact nomatch h
  next hdepth =>
    refine ⟨Nat.le_of_not_lt hdepth, ?_⟩
    cases hrender : Json.render d with
    | error fault => rw [hrender] at h; exact nomatch h
    | ok text' =>
      rw [hrender] at h
      exact congrArg Except.ok (Except.ok.inj h)

theorem exists_jsonText {d : Datum} : (∃ text, jsonText d = .ok text) ↔ Fits d := by
  constructor
  · rintro ⟨text, h⟩
    obtain ⟨hdepth, hrender⟩ := jsonText_ok h
    exact ⟨(Json.isOk_render d).symm.trans (congrArg Except.isOk hrender), hdepth⟩
  · rintro ⟨htext, hdepth⟩
    obtain ⟨text, hrender⟩ := exists_of_isOk ((Json.isOk_render d).trans htext)
    exact ⟨text, by rw [jsonText, if_neg (Nat.not_lt.2 hdepth), hrender]; rfl⟩

/-- The claims of a token: those that are given, and the time at which it ends. -/
def expiring (claims : Record) (issued lasts : Int) : Record :=
  Record.put claims "exp" (.int (issued + lasts))

theorem flat_expiring (hflat : ∀ entry ∈ claims, Json.Flat entry.2) (issued lasts : Int) :
    ∀ entry ∈ expiring claims issued lasts, Json.Flat entry.2 := by
  intro entry hentry
  rcases Record.mem_put hentry with hentry | rfl
  · exact hflat entry hentry
  · exact .int _

/-- Every header can stand in a token. -/
theorem exists_header (settings : Settings) : ∃ header,
    jsonText (.dict [("alg", .text settings.algorithm), ("typ", .text "JWT")]) = .ok header :=
  exists_jsonText.2 ⟨rfl, Nat.le_add_left 1 984⟩

/-- What a token is made of. -/
theorem create_ok (h : create settings now claims given = .ok token) :
    ∃ issued header payload, seconds now = .ok issued ∧
      jsonText (.dict (expiring claims issued (lifetime settings given))) = .ok payload ∧
      token = part header ++ "." ++ part payload ++ "." ++
        Base64Url.encode (sign (ofText (part header ++ "." ++ part payload)) settings.secretKey) := by
  obtain ⟨issued, hseconds, h⟩ := bind_eq_ok.1 h
  obtain ⟨header, hheader, h⟩ := bind_eq_ok.1 h
  obtain ⟨payload, hpayload, h⟩ := bind_eq_ok.1 h
  exact ⟨issued, header, payload, hseconds, hpayload, (Except.ok.inj h).symm⟩

/-- A token is made for claims that can stand in one, with the time at which it ends. -/
theorem exists_create {issued : Int} (hseconds : seconds now = .ok issued) :
    (∃ token, create settings now claims given = .ok token) ↔
      Fits (.dict (expiring claims issued (lifetime settings given))) := by
  constructor
  · rintro ⟨token, h⟩
    obtain ⟨issued', header, payload, hseconds', hpayload, _⟩ := create_ok h
    obtain rfl := Except.ok.inj (hseconds.symm.trans hseconds')
    exact exists_jsonText.1 ⟨payload, hpayload⟩
  · intro hfits
    obtain ⟨payload, hpayload⟩ := exists_jsonText.2 hfits
    obtain ⟨header, hheader⟩ := exists_header settings
    exact ⟨_, bind_eq_ok.2 ⟨issued, hseconds, bind_eq_ok.2 ⟨header, hheader,
      bind_eq_ok.2 ⟨payload, hpayload, rfl⟩⟩⟩⟩

/-- Claims that cannot stand in a token fail. -/
theorem create_error {issued : Int} {failure : Failure} (hseconds : seconds now = .ok issued)
    (h : jsonText (.dict (expiring claims issued (lifetime settings given))) = .error failure) :
    create settings now claims given = .error failure := by
  obtain ⟨header, hheader⟩ := exists_header settings
  exact bind_eq_error.2 (.inr ⟨issued, hseconds, bind_eq_error.2 (.inr ⟨header, hheader,
    bind_eq_error.2 (.inl h)⟩)⟩)

/-- A token holds no blanks, and no character that is not a byte. -/
theorem plain_of_create (h : create settings now claims given = .ok token) {c : Char}
    (hc : c ∈ token.toList) : c.toNat < 256 ∧ Text.isBlank c = false := by
  obtain ⟨_, header, payload, _, _, rfl⟩ := create_ok h
  have hdot : '.'.toNat < 256 ∧ Text.isBlank '.' = false := by decide
  simp only [String.toList_append, Text.toList_dot, List.mem_append, List.mem_singleton] at hc
  rcases hc with (((hc | rfl) | hc) | rfl) | hc
  · exact Base64Url.plain_of_mem hc
  · exact hdot
  · exact Base64Url.plain_of_mem hc
  · exact hdot
  · exact Base64Url.plain_of_mem hc

theorem ne_nil_of_create (h : create settings now claims given = .ok token) : token.toList ≠ [] := by
  obtain ⟨_, header, payload, _, _, rfl⟩ := create_ok h
  simp [Text.toList_dot]

/-- A token is read as claims under the names of those that it was made for if the signature is that of
the reader. -/
theorem decode_create (hnames : (Record.names claims).Nodup)
    (h : create settings now claims given = .ok token) : ∃ issued message found,
      seconds now = .ok issued ∧
      Json.EntriesReread (expiring claims issued (lifetime settings given)) found ∧
      ∀ (reader : Settings) (later : Int), decode reader later token =
        if sign message reader.secretKey = sign message settings.secretKey then current later found
        else .ok none := by
  obtain ⟨issued, header, payload, hseconds, hpayload, rfl⟩ := create_ok h
  obtain ⟨hdepth, hrender⟩ := jsonText_ok hpayload
  obtain ⟨found, hfound, hparse⟩ := Json.parse_dict (Record.nodup_put hnames _ _) hdepth hrender
  refine ⟨issued, ofText (part header ++ "." ++ part payload), found, hseconds, hfound,
    fun reader later => ?_⟩
  rw [decode, Text.split_dots (part_no_dot _) (part_no_dot _) (encode_no_dot _)]
  dsimp only
  rw [Base64Url.decode_encode]
  dsimp only
  rw [claimsOf_part hparse]

/-- Claims that are texts and integers are read as they are. -/
theorem decode_flat (hflat : ∀ entry ∈ claims, Json.Flat entry.2)
    (hnames : (Record.names claims).Nodup) (h : create settings now claims given = .ok token) :
    ∃ issued message, seconds now = .ok issued ∧ ∀ (reader : Settings) (later : Int),
      decode reader later token =
        if sign message reader.secretKey = sign message settings.secretKey then
          current later (expiring claims issued (lifetime settings given))
        else .ok none := by
  obtain ⟨issued, message, found, hseconds, hfound, hdecode⟩ := decode_create hnames h
  obtain rfl := hfound.eq_of_flat (flat_expiring hflat issued (lifetime settings given))
  exact ⟨issued, message, hseconds, hdecode⟩

/-- Claims that are read as current are read as they are. -/
theorem current_ok {later : Int} {found : Record} (h : current later claims = .ok (some found)) :
    found = claims := by
  unfold current at h
  split at h
  next => exact nomatch h
  next =>
    obtain ⟨ends, _, h⟩ := bind_eq_ok.1 h
    obtain ⟨t, _, h⟩ := bind_eq_ok.1 h
    split at h
    next => exact nomatch h
    next =>
      cases h
      rfl

/-- Claims that end are past after that. -/
theorem current_of_exp {ends later t : Int} (hexp : Record.field claims "exp" = .int ends)
    (ht : seconds later = .ok t) :
    current later claims = .ok (if ends < t then none else some claims) := by
  have hgiven : ¬ (Datum.int ends).isNull = true := Bool.false_ne_true
  rw [current, hexp, if_neg hgiven, ht]
  rfl

/-- A token that is made at one time is not past at another. -/
def Lasts (settings : Settings) (given : Option Int) (made later : Int) : Prop :=
  ∃ issued t, seconds made = .ok issued ∧ seconds later = .ok t ∧ t ≤ issued + lifetime settings given

/-- Whoever has the secret of a token reads its claims until it is past. -/
theorem decode_of_lasts (hflat : ∀ entry ∈ claims, Json.Flat entry.2)
    (hnames : (Record.names claims).Nodup) (h : create settings now claims given = .ok token)
    {reader : Settings} {later : Int} (hsecret : reader.secretKey = settings.secretKey)
    (hlasts : Lasts settings given now later) :
    ∃ ends, decode reader later token = .ok (some (Record.put claims "exp" (.int ends))) := by
  obtain ⟨issued, message, hseconds, hdecode⟩ := decode_flat hflat hnames h
  obtain ⟨issued', t, hseconds', ht, hle⟩ := hlasts
  obtain rfl := Except.ok.inj (hseconds.symm.trans hseconds')
  refine ⟨issued + lifetime settings given, ?_⟩
  have hexp : Record.field (expiring claims issued (lifetime settings given)) "exp" =
      .int (issued + lifetime settings given) := Record.field_put_self _ _ _
  have hfound := (current_of_exp hexp ht).trans (congrArg Except.ok (if_neg (Int.not_lt.2 hle)))
  exact (hdecode reader later).trans ((if_pos (congrArg (sign message) hsecret)).trans hfound)

/-- Whoever reads claims from a token reads those that it was made for. -/
theorem claims_of_decode (hflat : ∀ entry ∈ claims, Json.Flat entry.2)
    (hnames : (Record.names claims).Nodup) (h : create settings now claims given = .ok token)
    {reader : Settings} {later : Int} {found : Record}
    (hfound : decode reader later token = .ok (some found)) :
    ∃ ends, found = Record.put claims "exp" (.int ends) := by
  obtain ⟨issued, message, _, hdecode⟩ := decode_flat hflat hnames h
  rw [hdecode] at hfound
  split at hfound
  next => exact ⟨_, current_ok hfound⟩
  next => exact nomatch hfound

end Token
end SchoolCatalog
