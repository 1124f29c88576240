import SchoolCatalog.Proofs.Json.Numbers
import SchoolCatalog.Proofs.Lists
import SchoolCatalog.Proofs.Record

/-!
# JSON values read back

A value is read from its JSON text to the end of it. Whether it has one depends on the bytes and the
integers in it. Texts, integers, truth values and null are read as they were written, at any depth; a
number with a fraction is read as such a number, and a broken text as a text, since halves that come
together make a pair.

Results:
1. `isOk_render`: which values have a JSON text.
2. `readItems_item`, `readEntries_entry`: an item, and an entry.
3. `readValue_render`: a value within a text.
4. `parse_reread`, `parse_render`: the whole text; records of texts and integers.
-/

namespace SchoolCatalog.Json

variable {off depth fuel : Nat} {rest tail : List Char} {d : Datum} {text : String} {c : Char}

/-! ## Values that have a text -/

mutual

/-- Whether no bytes stand in a value, and no integer with too many digits. -/
def hasText : Datum → Bool
  | .int i => !isLongInteger i
  | .bytes _ => false
  | .list items => itemsHaveText items
  | .dict entries => entriesHaveText entries
  | _ => true

def itemsHaveText : List Datum → Bool
  | [] => true
  | d :: ds => hasText d && itemsHaveText ds

def entriesHaveText : List (String × Datum) → Bool
  | [] => true
  | (_, d) :: ds => hasText d && entriesHaveText ds

end

mutual

theorem isOk_render : ∀ d : Datum, (render d).isOk = hasText d
  | .null | .bool _ | .real _ | .text _ | .broken _ | .bytes _ => rfl
  | .int i => by
    rw [render, hasText]
    cases isLongInteger i <;> rfl
  | .list items => by
    rw [render, hasText, ← isOk_renderItems items]
    cases renderItems items <;> rfl
  | .dict entries => by
    rw [render, hasText, ← isOk_renderEntries entries]
    cases renderEntries entries <;> rfl

theorem isOk_renderItems : ∀ items : List Datum, (renderItems items).isOk = itemsHaveText items
  | [] => rfl
  | d :: ds => by
    rw [renderItems, itemsHaveText, ← isOk_render d, ← isOk_renderItems ds]
    cases render d <;> cases renderItems ds <;> rfl

theorem isOk_renderEntries : ∀ entries : List (String × Datum),
    (renderEntries entries).isOk = entriesHaveText entries
  | [] => rfl
  | (_, d) :: ds => by
    rw [renderEntries, entriesHaveText, ← isOk_render d, ← isOk_renderEntries ds]
    cases render d <;> cases renderEntries ds <;> rfl

end

theorem entriesHaveText_iff {entries : Record} :
    entriesHaveText entries = true ↔ ∀ entry ∈ entries, hasText entry.2 = true := by
  induction entries with
  | nil => exact ⟨fun _ => nofun, fun _ => rfl⟩
  | cons entry entries ih => rw [entriesHaveText, Bool.and_eq_true, ih, List.forall_mem_cons]

/-! ## Texts of values -/

theorem render_int {i : Int} (h : render (.int i) = .ok text) :
    isLongInteger i = false ∧ text = toString i := by
  rw [render] at h
  split at h
  next => exact nomatch h
  next hshort => exact ⟨Bool.eq_false_iff.2 hshort, (Except.ok.inj h).symm⟩

theorem renderItems_cons {items : List Datum} {texts : List String}
    (h : renderItems (d :: items) = .ok texts) : ∃ text others,
      render d = .ok text ∧ renderItems items = .ok others ∧ text :: others = texts := by
  obtain ⟨text, htext, h⟩ := bind_eq_ok.1 h
  obtain ⟨others, hothers, h⟩ := bind_eq_ok.1 h
  exact ⟨text, others, htext, hothers, Except.ok.inj h⟩

theorem renderEntries_cons {name : String} {entries : Record} {texts : List String}
    (h : renderEntries ((name, d) :: entries) = .ok texts) : ∃ text others,
      render d = .ok text ∧ renderEntries entries = .ok others ∧
        (quote name ++ ":" ++ text) :: others = texts := by
  obtain ⟨text, htext, h⟩ := bind_eq_ok.1 h
  obtain ⟨others, hothers, h⟩ := bind_eq_ok.1 h
  exact ⟨text, others, htext, hothers, Except.ok.inj h⟩

section Enclosed

variable {opening closing : String} {first last : Char} (hopening : opening.toList = [first])
  (hclosing : closing.toList = [last])

include hopening hclosing

/-- The characters of a list's or a record's text. -/
theorem enclosed_append (inner : String) (rest : List Char) :
    (opening ++ inner ++ closing).toList ++ rest = first :: (inner.toList ++ last :: rest) := by
  rw [String.toList_append, String.toList_append, hopening, hclosing, List.append_assoc, List.append_assoc]
  rfl

theorem fuel_enclosed {inner : String} (h : (opening ++ inner ++ closing).toList.length ≤ fuel) :
    ∃ k, fuel = k + 2 ∧ inner.toList.length ≤ k := by
  rw [← List.append_nil (String.toList _), enclosed_append hopening hclosing, List.length_cons,
    List.length_append, List.length_singleton] at h
  exact ⟨fuel - 2, by omega, by omega⟩

end Enclosed

theorem bracket_toList : "[".toList = ['['] ∧ "]".toList = [']'] := ⟨rfl, rfl⟩

theorem brace_toList : "\x7b".toList = ['\x7b'] ∧ "\x7d".toList = ['\x7d'] := ⟨rfl, rfl⟩

/-- Characters with a first one that is no space and no byte order mark and closes nothing. -/
def Starts (cs : List Char) : Prop := ∃ c tail, cs = c :: tail ∧
  Place.isJsonSpace c = false ∧ c ≠ ']' ∧ c ≠ '\x7d' ∧ c ≠ Char.ofNat 0xFEFF

theorem Begins.starts {cs : List Char} (h : Begins cs) : Starts cs := by
  cases h with
  | minus _ => exact ⟨_, _, rfl, by decide⟩
  | @digit c tail hc =>
    have hother (e : Char) (he : e.isDigit = false) : c ≠ e := by
      rintro rfl
      exact nomatch hc.symm.trans he
    refine ⟨c, tail, rfl, Bool.eq_false_iff.2 fun hspace => ?_, hother _ (by decide), hother _ (by decide),
      hother _ (by decide)⟩
    simp only [Place.isJsonSpace, Bool.or_eq_true, decide_eq_true_eq] at hspace
    rcases hspace with ((rfl | rfl) | rfl) | rfl <;> exact nomatch hc

/-- The text of a value starts with what belongs to it. -/
theorem starts_render (h : render d = .ok text) (rest : List Char) : Starts (text.toList ++ rest) := by
  have hword {c : Char} {tail : List Char}
      (hc : Place.isJsonSpace c = false ∧ c ≠ ']' ∧ c ≠ '\x7d' ∧ c ≠ Char.ofNat 0xFEFF) :
      Starts (c :: tail) := ⟨c, tail, rfl, hc⟩
  cases d with
  | null =>
    obtain rfl := Except.ok.inj h
    exact hword (by decide)
  | bool b =>
    obtain rfl := Except.ok.inj h
    cases b <;> exact hword (by decide)
  | int i =>
    obtain ⟨_, rfl⟩ := render_int h
    exact (begins_toString i rest).starts
  | real x =>
    obtain rfl := Except.ok.inj h
    cases x with
    | nan => exact hword (by decide)
    | infinite negative => cases negative <;> exact hword (by decide)
    | finite negative units => exact ((isNumeral_text negative units).begins rest).starts
  | text s =>
    obtain rfl := Except.ok.inj h
    rw [quote_append]
    exact hword (by decide)
  | broken points =>
    obtain rfl := Except.ok.inj h
    rw [quotePoints_append]
    exact hword (by decide)
  | bytes b => exact nomatch h
  | list items =>
    obtain ⟨texts, _, rfl⟩ := map_eq_ok.1 h
    exact enclosed_append bracket_toList.1 bracket_toList.2 _ rest ▸ hword (by decide)
  | dict entries =>
    obtain ⟨texts, _, rfl⟩ := map_eq_ok.1 h
    exact enclosed_append brace_toList.1 brace_toList.2 _ rest ▸ hword (by decide)

theorem skipSpace_cons {cs : List Char} (h : Place.isJsonSpace c = false) :
    Place.skipSpace ⟨off, c :: cs, []⟩ = ⟨off, c :: cs, []⟩ := by
  unfold Place.skipSpace
  dsimp only
  rw [List.takeWhile_cons, h]
  rfl

theorem Starts.skipSpace {cs : List Char} (h : Starts cs) :
    Place.skipSpace ⟨off, cs, []⟩ = ⟨off, cs, []⟩ := by
  obtain ⟨c, tail, rfl, hspace, _⟩ := h
  exact skipSpace_cons hspace

/-! ## What is read -/

mutual

/-- What the text of a value may be read as. -/
inductive Rereads : Datum → Datum → Prop
  | null : Rereads .null .null
  | bool (b : Bool) : Rereads (.bool b) (.bool b)
  | int (i : Int) : Rereads (.int i) (.int i)
  | text (s : String) : Rereads (.text s) (.text s)
  | real (x y : Binary64) : Rereads (.real x) (.real y)
  | broken (points : List Nat) (w : Wording) : Rereads (.broken points) (.ofWording w)
  | list {items found : List Datum} : ItemsReread items found → Rereads (.list items) (.list found)
  | dict {entries found : List (String × Datum)} :
    EntriesReread entries found → Rereads (.dict entries) (.dict (Record.ofPairs found))

inductive ItemsReread : List Datum → List Datum → Prop
  | nil : ItemsReread [] []
  | cons {d e : Datum} {ds es : List Datum} :
    Rereads d e → ItemsReread ds es → ItemsReread (d :: ds) (e :: es)

inductive EntriesReread : List (String × Datum) → List (String × Datum) → Prop
  | nil : EntriesReread [] []
  | cons {name : String} {d e : Datum} {ds es : List (String × Datum)} :
    Rereads d e → EntriesReread ds es → EntriesReread ((name, d) :: ds) ((name, e) :: es)

end

/-! ## Items and entries -/

/-- An item is read; then the character after it decides. -/
theorem readItems_item {cs : List Char} {found : Datum} {off' : Nat} (hc : c = ',' ∨ c = ']')
    (hvalue : readValue depth fuel ⟨off, cs, []⟩ = .ok (found, ⟨off', c :: tail, []⟩)) :
    readItems depth (fuel + 1) ⟨off, cs, []⟩ =
      if c = ']' then .ok ([found], ⟨off' + 1, tail, []⟩)
      else (readItems depth fuel (Place.skipSpace ⟨off' + 1, tail, []⟩)).map fun (ds, q) =>
        (found :: ds, q) := by
  rw [readItems, hvalue]
  simp only [bind, Except.bind]
  rcases hc with rfl | rfl
  · rw [skipSpace_cons rfl, if_neg (by decide)]
    show Except.bind (readItems depth fuel (Place.skipSpace ⟨off' + 1, tail, []⟩)) _ = _
    cases readItems depth fuel (Place.skipSpace ⟨off' + 1, tail, []⟩) <;> rfl
  · rw [skipSpace_cons rfl, if_pos rfl]
    rfl

/-- An entry is read; then the character after it decides. -/
theorem readEntries_entry (name : String) (hc : c = ',' ∨ c = '\x7d')
    (hstarts : Starts (text.toList ++ c :: tail)) : ∃ off₁, ∀ found off₂,
      readValue depth fuel ⟨off₁, text.toList ++ c :: tail, []⟩ = .ok (found, ⟨off₂, c :: tail, []⟩) →
      readEntries depth (fuel + 1) ⟨off, (quote name ++ ":" ++ text).toList ++ c :: tail, []⟩ =
        if c = '\x7d' then .ok ([(name, found)], ⟨off₂ + 1, tail, []⟩)
        else (readEntries depth fuel (Place.skipSpace ⟨off₂ + 1, tail, []⟩)).map fun (ds, q) =>
          ((name, found) :: ds, q) := by
  have hchars : (quote name ++ ":" ++ text).toList ++ c :: tail =
      (quote name).toList ++ ':' :: (text.toList ++ c :: tail) := by
    simp
  obtain ⟨off₁, hname⟩ := @readString_quote off (':' :: (text.toList ++ c :: tail)) name
  refine ⟨off₁ + 1, fun found off₂ hvalue => ?_⟩
  have hend : Place.skipSpace ⟨off₂, c :: tail, []⟩ = ⟨off₂, c :: tail, []⟩ :=
    skipSpace_cons (by rcases hc with rfl | rfl <;> rfl)
  have hcolon : Place.skipSpace ⟨off₁, ':' :: (text.toList ++ c :: tail), []⟩ =
      ⟨off₁, ':' :: (text.toList ++ c :: tail), []⟩ := skipSpace_cons rfl
  have hadvance : Place.advance ⟨off₁, ':' :: (text.toList ++ c :: tail), []⟩ 1 =
      ⟨off₁ + 1, text.toList ++ c :: tail, []⟩ := rfl
  rw [hchars, quote_append] at *
  rw [readEntries]
  dsimp only
  rw [hname, if_neg (by simp)]
  simp only [bind, Except.bind]
  rw [hcolon, if_neg (by simp), hadvance, hstarts.skipSpace, hvalue]
  dsimp only
  rw [hend]
  rcases hc with rfl | rfl
  · have hcomma : Place.advance ⟨off₂, ',' :: tail, []⟩ 1 = ⟨off₂ + 1, tail, []⟩ := rfl
    rw [List.head?_cons]
    dsimp only
    rw [if_neg (by decide), if_pos rfl, if_neg (by decide), hcomma]
    cases readEntries depth fuel (Place.skipSpace ⟨off₂ + 1, tail, []⟩) <;> rfl
  · rw [if_pos rfl]
    rfl

/-- The characters of texts with commas between them. -/
theorem intercalate_append (text : String) (others : List String) (rest : List Char) :
    (",".intercalate (text :: others)).toList ++ rest = text.toList ++ (if others = [] then rest
      else ',' :: ((",".intercalate others).toList ++ rest)) := by
  cases others with
  | nil => rw [if_pos rfl, String.intercalate_singleton]
  | cons other others =>
    rw [if_neg (List.cons_ne_nil _ _), String.intercalate_cons_cons]
    simp

theorem length_intercalate (text : String) (others : List String) :
    (",".intercalate (text :: others)).toList.length = text.toList.length + (if others = [] then 0
      else (",".intercalate others).toList.length + 1) := by
  have hchars := congrArg List.length (intercalate_append text others [])
  rw [List.append_nil, List.length_append] at hchars
  rw [hchars]
  split
  next => rfl
  next => rw [List.append_nil, List.length_cons]

theorem starts_items {items : List Datum} {texts : List String} (hsome : items ≠ [])
    (h : renderItems items = .ok texts) (rest : List Char) :
    texts ≠ [] ∧ Starts ((",".intercalate texts).toList ++ rest) := by
  obtain ⟨d, ds, rfl⟩ := List.exists_cons_of_ne_nil hsome
  obtain ⟨text, others, htext, _, rfl⟩ := renderItems_cons h
  rw [intercalate_append]
  exact ⟨List.cons_ne_nil _ _, starts_render htext _⟩

theorem starts_entries {entries : Record} {texts : List String} (hsome : entries ≠ [])
    (h : renderEntries entries = .ok texts) (rest : List Char) :
    texts ≠ [] ∧ Starts ((",".intercalate texts).toList ++ rest) := by
  obtain ⟨⟨name, d⟩, ds, rfl⟩ := List.exists_cons_of_ne_nil hsome
  obtain ⟨text, others, _, _, rfl⟩ := renderEntries_cons h
  rw [intercalate_append, String.toList_append, String.toList_append, List.append_assoc, List.append_assoc,
    quote_append]
  exact ⟨List.cons_ne_nil _ _, _, _, rfl, by decide⟩

/-! ## Values -/

theorem readValue_list {cs : List Char} (hstarts : Starts cs) :
    readValue (depth + 1) (fuel + 1) ⟨off, '[' :: cs, []⟩ =
      (readItems depth fuel ⟨off + 1, cs, []⟩).map fun (items, q) => (.list items, q) := by
  have hadvance : Place.advance ⟨off, '[' :: cs, []⟩ 1 = ⟨off + 1, cs, []⟩ := rfl
  have hspace : Place.skipSpace ⟨off + 1, cs, []⟩ = ⟨off + 1, cs, []⟩ := hstarts.skipSpace
  obtain ⟨c, tail, rfl, _, hbracket, _⟩ := hstarts
  rw [readValue]
  dsimp only
  rw [if_neg (by decide), if_neg (by decide), if_pos rfl, if_neg (Nat.succ_ne_zero depth), hadvance, hspace,
    List.head?_cons, if_neg (fun h => hbracket (Option.some.inj h))]
  rfl

theorem readValue_dict {cs : List Char} (hstarts : Starts cs) :
    readValue (depth + 1) (fuel + 1) ⟨off, '\x7b' :: cs, []⟩ =
      (readEntries depth fuel ⟨off + 1, cs, []⟩).map fun (entries, q) =>
        (.dict (Record.ofPairs entries), q) := by
  have hadvance : Place.advance ⟨off, '\x7b' :: cs, []⟩ 1 = ⟨off + 1, cs, []⟩ := rfl
  have hspace : Place.skipSpace ⟨off + 1, cs, []⟩ = ⟨off + 1, cs, []⟩ := hstarts.skipSpace
  obtain ⟨c, tail, rfl, _, _, hbrace, _⟩ := hstarts
  rw [readValue]
  dsimp only
  rw [if_neg (by decide), if_pos rfl, if_neg (Nat.succ_ne_zero depth), hadvance, hspace,
    List.head?_cons, if_neg (fun h => hbrace (Option.some.inj h))]
  rfl

theorem readValue_string {cs : List Char} {w : Wording} {off' : Nat}
    (h : readString ⟨off, '"' :: cs, []⟩ = .ok (w, ⟨off', rest, []⟩)) :
    readValue depth (fuel + 1) ⟨off, '"' :: cs, []⟩ = .ok (.ofWording w, ⟨off', rest, []⟩) := by
  rw [readValue]
  dsimp only
  rw [if_pos rfl, h]
  rfl

-- The induction is on the value. Fuel is measured by the text that is left: the marks around a list and the
-- comma after an item pay for the steps into it.
mutual

/-- A value is read from its text. -/
theorem readValue_render (d : Datum) {text : String} {depth fuel off : Nat} {rest : List Char}
    (h : render d = .ok text) (hdepth : nesting d ≤ depth) (hfuel : text.toList.length ≤ fuel)
    (hrest : GoesOn rest) : ∃ found off', Rereads d found ∧
      readValue depth (fuel + 1) ⟨off, text.toList ++ rest, []⟩ = .ok (found, ⟨off', rest, []⟩) := by
  cases d with
  | null =>
    obtain rfl := Except.ok.inj h
    exact ⟨.null, off + 4, .null, rfl⟩
  | bool b =>
    obtain rfl := Except.ok.inj h
    cases b with
    | true => exact ⟨.bool true, off + 4, .bool true, rfl⟩
    | false => exact ⟨.bool false, off + 5, .bool false, rfl⟩
  | int i =>
    obtain ⟨hshort, rfl⟩ := render_int h
    obtain ⟨off', hread⟩ := readNumber_toString hshort hrest
    exact ⟨.int i, off', .int i, (readValue_number (begins_toString i rest)).trans hread⟩
  | real x =>
    obtain rfl := Except.ok.inj h
    obtain ⟨y, off', hread⟩ := readValue_numberText x hrest
    exact ⟨.real y, off', .real x y, hread⟩
  | text s =>
    obtain rfl := Except.ok.inj h
    obtain ⟨off', hread⟩ := @readString_quote off rest s
    rw [quote_append] at hread ⊢
    exact ⟨.text s, off', .text s, readValue_string hread⟩
  | broken points =>
    obtain rfl := Except.ok.inj h
    obtain ⟨w, off', hread⟩ := @readString_points off rest points
    rw [quotePoints_append] at hread ⊢
    exact ⟨.ofWording w, off', .broken points w, readValue_string hread⟩
  | bytes b => exact nomatch h
  | list items =>
    obtain ⟨texts, htexts, rfl⟩ := map_eq_ok.1 h
    obtain ⟨depth, rfl⟩ : ∃ k, depth = k + 1 := ⟨depth - 1, by rw [nesting] at hdepth; omega⟩
    obtain ⟨fuel, rfl, hinner⟩ := fuel_enclosed bracket_toList.1 bracket_toList.2 hfuel
    rw [enclosed_append bracket_toList.1 bracket_toList.2]
    by_cases hsome : items = []
    · subst hsome
      obtain rfl := Except.ok.inj htexts
      exact ⟨.list [], off + 2, .list .nil, rfl⟩
    · obtain ⟨found, off', hfound, hread⟩ := @readItems_render items texts depth fuel (off + 1) rest hsome
        htexts (Nat.le_of_succ_le_succ hdepth) hinner
      refine ⟨.list found, off', .list hfound, ?_⟩
      rw [readValue_list (starts_items hsome htexts _).2, hread]
      rfl
  | dict entries =>
    obtain ⟨texts, htexts, rfl⟩ := map_eq_ok.1 h
    obtain ⟨depth, rfl⟩ : ∃ k, depth = k + 1 := ⟨depth - 1, by rw [nesting] at hdepth; omega⟩
    obtain ⟨fuel, rfl, hinner⟩ := fuel_enclosed brace_toList.1 brace_toList.2 hfuel
    rw [enclosed_append brace_toList.1 brace_toList.2]
    by_cases hsome : entries = []
    · subst hsome
      obtain rfl := Except.ok.inj htexts
      exact ⟨.dict [], off + 2, .dict .nil, rfl⟩
    · obtain ⟨found, off', hfound, hread⟩ := @readEntries_render entries texts depth fuel (off + 1) rest
        hsome htexts (Nat.le_of_succ_le_succ hdepth) hinner
      refine ⟨.dict (Record.ofPairs found), off', .dict hfound, ?_⟩
      rw [readValue_dict (starts_entries hsome htexts _).2, hread]
      rfl

/-- Items are read from their texts, with the bracket after them. -/
theorem readItems_render (items : List Datum) {texts : List String} {depth fuel off : Nat}
    {rest : List Char} (hsome : items ≠ []) (h : renderItems items = .ok texts)
    (hdepth : nestingOfItems items ≤ depth) (hfuel : (",".intercalate texts).toList.length ≤ fuel) :
    ∃ found off', ItemsReread items found ∧
      readItems depth (fuel + 2) ⟨off, (",".intercalate texts).toList ++ ']' :: rest, []⟩ =
        .ok (found, ⟨off', rest, []⟩) := by
  cases items with
  | nil => exact absurd rfl hsome
  | cons d ds =>
    obtain ⟨text, others, htext, hothers, rfl⟩ := renderItems_cons h
    obtain ⟨hfirst, hlater⟩ := Nat.max_le.1 hdepth
    rw [length_intercalate] at hfuel
    rw [intercalate_append]
    -- whether the bracket or a comma stands after the item
    by_cases hds : ds = []
    · subst hds
      obtain rfl := Except.ok.inj hothers
      obtain ⟨found, off', hfound, hread⟩ := readValue_render d htext hfirst hfuel (.bracket rest)
      refine ⟨[found], off' + 1, .cons hfound .nil, ?_⟩
      rw [if_pos rfl, readItems_item (.inr rfl) hread, if_pos rfl]
    · obtain ⟨hsome, hstarts⟩ := starts_items hds hothers (']' :: rest)
      rw [if_neg hsome] at hfuel ⊢
      obtain ⟨fuel, rfl⟩ : ∃ k, fuel = k + 1 := ⟨fuel - 1, by omega⟩
      have hshort : text.toList.length ≤ fuel + 1 := by omega
      have hothersShort : (",".intercalate others).toList.length ≤ fuel := by omega
      obtain ⟨found, off', hfound, hread⟩ := readValue_render d htext hfirst hshort
        (.comma ((",".intercalate others).toList ++ ']' :: rest))
      obtain ⟨founds, off'', hfounds, hreads⟩ := readItems_render ds hds hothers hlater hothersShort
      refine ⟨found :: founds, off'', .cons hfound hfounds, ?_⟩
      rw [readItems_item (.inl rfl) hread, if_neg (by decide), hstarts.skipSpace, hreads]
      rfl

/-- Entries are read from their texts, with the brace after them. -/
theorem readEntries_render (entries : List (String × Datum)) {texts : List String}
    {depth fuel off : Nat} {rest : List Char} (hsome : entries ≠ [])
    (h : renderEntries entries = .ok texts) (hdepth : nestingOfEntries entries ≤ depth)
    (hfuel : (",".intercalate texts).toList.length ≤ fuel) :
    ∃ found off', EntriesReread entries found ∧
      readEntries depth (fuel + 2) ⟨off, (",".intercalate texts).toList ++ '\x7d' :: rest, []⟩ =
        .ok (found, ⟨off', rest, []⟩) := by
  match entries with
  | [] => exact absurd rfl hsome
  | (name, d) :: ds =>
    obtain ⟨text, others, htext, hothers, rfl⟩ := renderEntries_cons h
    obtain ⟨hfirst, hlater⟩ := Nat.max_le.1 hdepth
    rw [length_intercalate] at hfuel
    have hwhole : text.toList.length ≤ (quote name ++ ":" ++ text).toList.length := by
      rw [String.toList_append, List.length_append]
      exact Nat.le_add_left _ _
    rw [intercalate_append]
    by_cases hds : ds = []
    · subst hds
      obtain rfl := Except.ok.inj hothers
      rw [if_pos rfl] at hfuel ⊢
      obtain ⟨off₁, hentry⟩ := @readEntries_entry off depth (fuel + 1) rest text '\x7d' name (.inr rfl)
        (starts_render htext _)
      have hshort : text.toList.length ≤ fuel := by omega
      obtain ⟨found, off₂, hfound, hread⟩ := readValue_render d htext hfirst hshort (.brace rest)
      refine ⟨[(name, found)], off₂ + 1, .cons hfound .nil, ?_⟩
      rw [hentry found off₂ hread, if_pos rfl]
    · obtain ⟨hsome, hstarts⟩ := starts_entries hds hothers ('\x7d' :: rest)
      rw [if_neg hsome] at hfuel ⊢
      obtain ⟨fuel, rfl⟩ : ∃ k, fuel = k + 1 := ⟨fuel - 1, by omega⟩
      have hshort : text.toList.length ≤ fuel + 1 := by omega
      have hothersShort : (",".intercalate others).toList.length ≤ fuel := by omega
      obtain ⟨off₁, hentry⟩ := @readEntries_entry off depth (fuel + 2)
        ((",".intercalate others).toList ++ '\x7d' :: rest) text ',' name (.inl rfl) (starts_render htext _)
      obtain ⟨found, off₂, hfound, hread⟩ := readValue_render d htext hfirst hshort
        (.comma ((",".intercalate others).toList ++ '\x7d' :: rest))
      obtain ⟨founds, off', hfounds, hreads⟩ := readEntries_render ds hds hothers hlater hothersShort
      refine ⟨(name, found) :: founds, off', .cons hfound hfounds, ?_⟩
      rw [hentry found off₂ hread, if_neg (by decide), hstarts.skipSpace, hreads]
      rfl

end

/-! ## Whole texts -/

/-- A value that is not too deep is read from its text. -/
theorem parse_reread (hdepth : nesting d ≤ maxDepth) (h : render d = .ok text) :
    ∃ found, Rereads d found ∧ parse text = .ok found := by
  obtain ⟨found, off', hfound, hread⟩ :=
    @readValue_render d text maxDepth text.toList.length 0 [] h hdepth (Nat.le_refl _) .done
  have hstarts := starts_render h []
  rw [List.append_nil] at hread hstarts
  have hspace : Place.skipSpace ⟨0, text.toList, []⟩ = ⟨0, text.toList, []⟩ := hstarts.skipSpace
  have hmark : ¬ text.toList.head? = some (Char.ofNat 0xFEFF) := by
    obtain ⟨c, tail, hcs, _, _, _, hmark⟩ := hstarts
    rw [hcs]
    exact fun heq => hmark (Option.some.inj heq)
  refine ⟨found, hfound, ?_⟩
  rw [parse, parseWording, Place.start]
  dsimp only
  rw [if_neg hmark, hspace]
  exact bind_eq_ok.2 ⟨_, hread, rfl⟩

/-! ## Records -/

theorem EntriesReread.names {entries found : Record} (h : EntriesReread entries found) :
    Record.names found = Record.names entries := by
  induction entries generalizing found with
  | nil =>
    cases h
    rfl
  | cons entry entries ih =>
    cases h with
    | cons hd hds => exact congrArg (List.cons _) (ih hds)

/-- What stands under a name is read back under it. -/
theorem EntriesReread.field {entries found : Record} (h : EntriesReread entries found) (name : String) :
    Rereads (Record.field entries name) (Record.field found name) := by
  induction entries generalizing found with
  | nil =>
    cases h
    exact .null
  | cons entry entries ih =>
    cases h with
    | @cons n d e _ es hd hds =>
      have hrest := ih hds
      unfold Record.field Record.get? at hrest ⊢
      rw [List.lookup_cons, List.lookup_cons]
      cases name == n with
      | true => exact hd
      | false => exact hrest

/-- A record with different names is read as a record with these names. -/
theorem parse_dict {entries : Record} (hnames : (Record.names entries).Nodup)
    (hdepth : nesting (.dict entries) ≤ maxDepth) (h : render (.dict entries) = .ok text) :
    ∃ found, EntriesReread entries found ∧ parse text = .ok (.dict found) := by
  obtain ⟨value, hvalue, hparse⟩ := parse_reread hdepth h
  cases hvalue with
  | @dict _ found hfound =>
    rw [Record.ofPairs_of_nodup (hfound.names ▸ hnames)] at hparse
    exact ⟨found, hfound, hparse⟩

/-- A value that is a text or an integer. -/
inductive Flat : Datum → Prop
  | text (s : String) : Flat (.text s)
  | int (i : Int) : Flat (.int i)

/-- What texts and integers can lack a JSON text for is a long integer. -/
theorem renderEntries_error {entries : Record} (hflat : ∀ entry ∈ entries, Flat entry.2)
    {fault : Unprintable}
    (h : renderEntries entries = .error fault) : fault = .longInteger := by
  induction entries with
  | nil => exact nomatch h
  | cons entry entries ih =>
    obtain ⟨name, d⟩ := entry
    rcases bind_eq_error.1 h with h | ⟨text, _, h⟩
    · cases hflat _ (List.mem_cons_self ..) with
      | text s => exact nomatch h
      | int i =>
        rw [render] at h
        split at h
        next => exact (Except.error.inj h).symm
        next => exact nomatch h
    · rcases bind_eq_error.1 h with h | ⟨others, _, h⟩
      · exact ih (fun e he => hflat e (List.mem_cons_of_mem _ he)) h
      · exact nomatch h

theorem nesting_flat {entries : Record} (hflat : ∀ entry ∈ entries, Flat entry.2) :
    nestingOfEntries entries = 0 := by
  induction entries with
  | nil => rfl
  | cons entry entries ih =>
    have hfirst : nesting entry.2 = 0 := by
      have hd := hflat entry (List.mem_cons_self ..)
      generalize entry.2 = d at hd ⊢
      cases hd <;> rfl
    rw [nestingOfEntries, hfirst, ih fun e he => hflat e (List.mem_cons_of_mem _ he), Nat.max_self]

theorem nesting_le_of_flat {entries : Record} (hflat : ∀ entry ∈ entries, Flat entry.2) :
    nesting (.dict entries) ≤ maxDepth := by
  rw [nesting, nesting_flat hflat]
  decide

theorem EntriesReread.eq_of_flat {entries found : Record} (h : EntriesReread entries found)
    (hflat : ∀ entry ∈ entries, Flat entry.2) : found = entries := by
  induction entries generalizing found with
  | nil =>
    cases h
    rfl
  | cons entry entries ih =>
    cases h with
    | @cons name d e _ es hd hds =>
      have hfirst : Flat d := hflat _ (List.mem_cons_self ..)
      obtain rfl : e = d := by
        cases hfirst <;> cases hd <;> rfl
      rw [ih hds fun e he => hflat e (List.mem_cons_of_mem _ he)]

/-- A record whose values are texts and integers is read as it was written. -/
theorem parse_render {entries : Record} (hflat : ∀ entry ∈ entries, Flat entry.2)
    (hnames : (Record.names entries).Nodup) (h : render (.dict entries) = .ok text) :
    parse text = .ok (.dict entries) := by
  obtain ⟨found, hfound, hparse⟩ := parse_dict hnames (nesting_le_of_flat hflat) h
  rwa [hfound.eq_of_flat hflat] at hparse

end SchoolCatalog.Json
