import SchoolCatalog.Proofs.Access.Password
import SchoolCatalog.Proofs.Query.Filters

/-!
# Keys of filters

An operator is written in the key, as in `field[operator]`, or in front of the value, as in
`operator:value`. A token that names an operator holds none of the marks that the two forms are read
by: trimming and lower case keep every mark of a token, and no name of an operator has one. So the
marks that are found first are those around the token, whatever marks follow in the value.

Results:
1. `filter_forms`: both forms of a filter make the same conditions.
2. `bracketKey?_eq_some_iff`: the keys that are read as a field with an operator.
3. `filter_by_key`: what the conditions of a filter are, for every key. A line end after the brackets
   is passed over (`filter_line_end`).
-/

namespace SchoolCatalog

namespace Text

variable {p : Char → Bool} {ch : Char}

theorem mem_dropWhile_of_neg {cs : List Char} (h : ch ∈ cs) (hch : p ch = false) :
    ch ∈ cs.dropWhile p := by
  rw [← List.takeWhile_append_dropWhile (p := p) (l := cs), List.mem_append] at h
  rcases h with htake | hdrop
  · rw [List.mem_takeWhile_imp htake] at hch
    exact nomatch hch
  · exact hdrop

/-- Trimming keeps what is no blank. -/
theorem mem_trimList {cs : List Char} (h : ch ∈ cs) (hch : p ch = false) : ch ∈ trimList p cs :=
  List.mem_reverse.2 (mem_dropWhile_of_neg (List.mem_reverse.2 (mem_dropWhile_of_neg h hch)) hch)

/-- Lower case keeps a character of ASCII that is no capital. -/
theorem mem_lowerList (hascii : ch.toNat < 0x80) (hlower : ch.toLower = ch) {before cs : List Char}
    (h : ch ∈ cs) : ch ∈ lowerList before cs := by
  induction cs generalizing before with
  | nil => exact absurd h List.not_mem_nil
  | cons first rest ih =>
    rw [lowerList]
    rcases List.mem_cons.1 h with rfl | hrest
    · rw [if_pos hascii, hlower]
      exact List.mem_cons_self
    · exact List.mem_append_right _ (ih hrest)

end Text

namespace Operator

/-- The marks that an operator is told apart by. -/
def IsMark (ch : Char) : Prop := ch = ':' ∨ ch = '[' ∨ ch = ']'

/-- A mark of a token stands in the word that is looked up. -/
theorem mark_of_token {token : String} {ch : Char} (hmark : IsMark ch) (h : ch ∈ token.toList) :
    ch ∈ (Text.lower (Text.trim token)).toList := by
  have hfacts : Text.isBlank ch = false ∧ ch.toNat < 0x80 ∧ ch.toLower = ch := by
    rcases hmark with rfl | rfl | rfl <;> decide
  rw [Text.lower, String.toList_ofList, Text.trim, Text.trimBy, String.toList_ofList]
  exact Text.mem_lowerList hfacts.2.1 hfacts.2.2 (Text.mem_trimList h hfacts.1)

/-- No name of an operator has a mark in it. -/
theorem unmarked_name (op : Operator) : ∀ ch ∈ op.name.toList, ¬ IsMark ch := by
  cases op <;> simp [name, IsMark]

/-- A token that names an operator has no mark in it. -/
theorem unmarked_token {token : String} {op : Operator} (h : parse? token = some op) :
    ∀ ch ∈ token.toList, ¬ IsMark ch := by
  intro ch hch hmark
  unfold parse? at h
  have hname : op.name = Text.lower (Text.trim token) := by simpa only [decide_eq_true_eq] using List.find?_some h
  exact unmarked_name op ch (hname ▸ mark_of_token hmark hch) hmark

theorem unbracketed_token {token : String} {op : Operator} (h : parse? token = some op) :
    Unbracketed token := by
  refine List.all_eq_true.2 fun ch hch => ?_
  have hplain : ¬ (ch = '[' ∨ ch = ']') := fun hbracket => unmarked_token h ch hch (.inr hbracket)
  rw [not_or] at hplain
  simp only [Bool.not_eq_true', Bool.or_eq_false_iff, beq_eq_false_iff_ne]
  exact hplain

end Operator

namespace ListRequest

variable {field token key : String} {op : Operator}

/-! ## What a key asks for -/

/-- The condition of a value under a key with brackets: an unknown operator leaves the value as it
is. -/
def keyedCondition (c : Collection) (field token raw : String) : Condition :=
  match Operator.parse? token with
  | some op => ⟨field, op, operand c field op raw⟩
  | none => ⟨field, .eq, .text raw⟩

theorem keyedCondition_of_parse (c : Collection) (raw : String) (h : Operator.parse? token = some op) :
    keyedCondition c field token raw = ⟨field, op, operand c field op raw⟩ := by
  rw [keyedCondition, h]

theorem filter_keyed (c : Collection) (value : Parameter) (h : bracketKey? key = some (field, token)) :
    filter c key value = value.values.map (keyedCondition c field token) := by
  unfold filter keyedCondition
  rw [h]
  dsimp only
  generalize Operator.parse? token = op
  cases op <;> rfl

theorem filter_unkeyed (c : Collection) (value : Parameter) (h : bracketKey? key = none) :
    filter c key value =
      literalConditions key ((value.values.map (readPlain c key)).filterMap Sum.getRight?) ++
        (value.values.map (readPlain c key)).filterMap Sum.getLeft? := by
  unfold filter
  generalize bracketKey? key = found at h
  subst h
  refine congrArg₂ (· ++ ·) (congrArg (literalConditions key) ?_) ?_
  · exact List.filterMap_congr fun read _ => by cases read <;> rfl
  · exact List.filterMap_congr fun read _ => by cases read <;> rfl

/-! ## Both forms -/

/-- A key without brackets holds no operator. -/
theorem bracketKey?_plain (h : Unbracketed field) : bracketKey? field = none := by
  have hkept : ∀ ch ∈ field.toList, (!(ch == '[' || ch == ']')) = true := List.all_eq_true.1 h
  unfold bracketKey?
  dsimp only
  rw [List.dropWhile_eq_nil_iff.2 hkept]

/-- A value with an operator in front of it makes a condition of its own. -/
theorem readPlain_prefixed (c : Collection) (field raw : String) (h : Operator.parse? token = some op) :
    readPlain c field (token ++ ":" ++ raw) = .inl (keyedCondition c field token raw) := by
  have hcolon : ':' ∉ token.toList := fun hmem => Operator.unmarked_token h ':' hmem (.inl rfl)
  have htext : token ++ ":" ++ raw = String.ofList (token.toList ++ ':' :: raw.toList) := by
    rw [← String.toList_inj]
    simp [String.toList_append]
  rw [readPlain, htext, Text.cut_append hcolon, keyedCondition_of_parse c raw h]
  simp only [String.ofList_toList, h]

/-- A filter with its operator in the key makes the same conditions as one with the operator in front of
each value. -/
theorem filter_forms (c : Collection) (hfield : IsOpening field) (htoken : Operator.parse? token = some op)
    {bracketed prefixed : Parameter}
    (hvalues : prefixed.values = bracketed.values.map fun raw => token ++ ":" ++ raw) :
    filter c (field ++ "[" ++ token ++ "]") bracketed = filter c field prefixed := by
  have hread : prefixed.values.map (readPlain c field) =
      (bracketed.values.map (keyedCondition c field token)).map .inl := by
    have hone (raw : String) := readPlain_prefixed c field raw htoken
    simp only [hvalues, List.map_map, Function.comp_def, hone]
  have hkey : bracketKey? (field ++ "[" ++ token ++ "]") = some (field, token) :=
    bracketKey?_bracketed hfield.1 hfield.2 (Operator.unbracketed_token htoken)
  rw [filter_keyed c _ hkey, filter_unkeyed c _ (bracketKey?_plain hfield.2), hread]
  generalize bracketed.values.map (keyedCondition c field token) = conditions
  -- no value is a literal, and each is a condition
  have hliterals : (conditions.map .inl).filterMap Sum.getRight? = ([] : List Datum) := by
    simp [List.filterMap_map]
  have hconditions : (conditions.map (.inl : _ → Condition ⊕ Datum)).filterMap Sum.getLeft? =
      conditions := by
    rw [List.filterMap_map]
    exact List.filterMap_some
  rw [hliterals, hconditions]
  rfl

/-- The token may be in any case with blanks around it, and a value may look like another operator. -/
theorem filter_forms_of_blanks :
    IsOpening "weeks" ∧ Operator.parse? " Ne\n" = some .ne ∧
    filter .courses ("weeks" ++ "[" ++ " Ne\n" ++ "]") (.many ["in:[8],9", ":"]) =
      filter .courses "weeks" (.many [" Ne\n:in:[8],9", " Ne\n::"]) := by
  have hfield : IsOpening "weeks" := ⟨by decide, by unfold Unbracketed; decide⟩
  have htoken : Operator.parse? " Ne\n" = some .ne := by decide
  exact ⟨hfield, htoken, filter_forms .courses hfield htoken rfl⟩

/-! ## The grammar of keys -/

/-- A key that spells a field and an operator. It may end with a line end. -/
def Spells (key field token : String) : Prop :=
  IsOpening field ∧ Unbracketed token ∧
    (key = field ++ "[" ++ token ++ "]" ∨ key = field ++ "[" ++ token ++ "]\n")

theorem unbracketed_takeWhile (cs : List Char) :
    Unbracketed (String.ofList (cs.takeWhile fun ch => !(ch == '[' || ch == ']'))) := by
  rw [Unbracketed, String.toList_ofList]
  exact List.all_takeWhile

/-- The keys that are read as a field with an operator. -/
theorem bracketKey?_eq_some_iff : bracketKey? key = some (field, token) ↔ Spells key field token := by
  constructor
  · intro h
    unfold bracketKey? at h
    dsimp only at h
    split at h
    next rest hdrop =>
      split at h
      next hread =>
        obtain ⟨rfl, rfl⟩ := Prod.mk.inj (Option.some.inj h)
        rw [Bool.and_eq_true, Bool.not_eq_true', Bool.or_eq_true, decide_eq_true_eq,
          decide_eq_true_eq] at hread
        obtain ⟨hne, htail⟩ := hread
        have hchars : key.toList = key.toList.takeWhile (fun ch => !(ch == '[' || ch == ']')) ++
            '[' :: (rest.takeWhile (fun ch => !(ch == '[' || ch == ']')) ++
              rest.dropWhile fun ch => !(ch == '[' || ch == ']')) := by
          rw [List.takeWhile_append_dropWhile, ← hdrop, List.takeWhile_append_dropWhile]
        refine ⟨⟨?_, unbracketed_takeWhile _⟩, unbracketed_takeWhile _, htail.imp ?_ ?_⟩
        · intro hempty
          rw [String.ofList_eq_empty_iff.1 hempty] at hne
          exact nomatch hne
        · intro htail
          rw [htail] at hchars
          exact String.toList_inj.1 (hchars.trans (by simp))
        · intro htail
          rw [htail] at hchars
          exact String.toList_inj.1 (hchars.trans (by simp))
      next => exact nomatch h
    next => exact nomatch h
  · rintro ⟨hfield, htoken, rfl | rfl⟩
    · exact bracketKey?_ended hfield.1 hfield.2 htoken (.inl rfl)
    · exact bracketKey?_ended hfield.1 hfield.2 htoken (.inr rfl)

theorem field_of_literal {literals : List Datum} :
    ∀ cond ∈ literalConditions field literals, cond.field = field := by
  match literals with
  | [] => exact fun _ h => nomatch h
  | [_] | _ :: _ :: _ =>
    intro cond hcond
    rw [List.mem_singleton.1 hcond]

theorem field_of_readPlain {c : Collection} {raw : String} {cond : Condition}
    (h : readPlain c key raw = .inl cond) : cond.field = key := by
  unfold readPlain at h
  generalize Text.cut ':' raw = parts at h
  obtain ⟨before, _ | after⟩ := parts
  · exact nomatch h
  · dsimp only at h
    generalize Operator.parse? before = found at h
    cases found with
    | none => exact nomatch h
    | some found => exact Sum.inl.inj h ▸ rfl

/-- What the conditions of a filter are: those of the field and the operator that its key spells, else
conditions on the field that the whole key names. -/
theorem filter_by_key (c : Collection) (key : String) (value : Parameter) :
    (∀ field token, bracketKey? key = some (field, token) ↔ Spells key field token) ∧
    (∀ field token, Spells key field token →
      filter c key value = value.values.map (keyedCondition c field token)) ∧
    ((∀ field token, ¬ Spells key field token) → ∀ cond ∈ filter c key value, cond.field = key) := by
  refine ⟨fun _ _ => bracketKey?_eq_some_iff,
    fun field token hspells => filter_keyed c value (bracketKey?_eq_some_iff.2 hspells), ?_⟩
  intro hnone cond hcond
  have hkey : bracketKey? key = none :=
    Option.eq_none_iff_forall_ne_some.2 fun parts hparts =>
      hnone parts.1 parts.2 (bracketKey?_eq_some_iff.1 hparts)
  rw [filter_unkeyed c value hkey] at hcond
  rcases List.mem_append.1 hcond with hliteral | hread
  · exact field_of_literal cond hliteral
  · obtain ⟨read, hread, hsome⟩ := List.mem_filterMap.1 hread
    obtain ⟨raw, _, rfl⟩ := List.mem_map.1 hread
    exact field_of_readPlain (Sum.getLeft?_eq_some_iff.1 hsome)

/-- A key of each kind: one with a token that names no operator, and one without its last bracket. -/
theorem filter_by_key_of_unknown :
    Spells "weeks[near]" "weeks" "near" ∧
    filter .courses "weeks[near]" (.one "8") = [keyedCondition .courses "weeks" "near" "8"] ∧
    (∀ field token, ¬ Spells "weeks[near" field token) ∧
    ∀ cond ∈ filter .courses "weeks[near" (.one "8"), cond.field = "weeks[near" := by
  have hspells : Spells "weeks[near]" "weeks" "near" :=
    ((filter_by_key .courses "weeks[near]" (.one "8")).1 _ _).1 (by decide)
  have hopen (field token : String) : ¬ Spells "weeks[near" field token := by
    rw [← (filter_by_key .courses "weeks[near" (.one "8")).1, (by decide : bracketKey? "weeks[near" = none)]
    exact nofun
  exact ⟨hspells, (filter_by_key .courses "weeks[near]" (.one "8")).2.1 _ _ hspells, hopen,
    (filter_by_key .courses "weeks[near" (.one "8")).2.2 hopen⟩

/-- A key that ends with a line end is no field with an operator in brackets, but is read as one. -/
theorem filter_line_end :
    (∀ field token, "weeks[ne]\n" ≠ field ++ "[" ++ token ++ "]") ∧
    filter .courses "weeks[ne]\n" (.one "8") = [⟨"weeks", .ne, .text "8"⟩] := by
  refine ⟨fun field token heq => ?_, ?_⟩
  · have hlast := congrArg (fun key => key.toList.reverse.head?) heq
    simp [String.toList_append] at hlast
  · have hkey : bracketKey? "weeks[ne]\n" = some ("weeks", "ne") := by decide
    have htoken : Operator.parse? "ne" = some .ne := by decide
    rw [filter_keyed .courses (.one "8") hkey]
    show [keyedCondition .courses "weeks" "ne" "8"] = _
    rw [keyedCondition_of_parse .courses "8" htoken]
    rfl

end ListRequest
end SchoolCatalog
