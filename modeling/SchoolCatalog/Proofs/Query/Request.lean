import SchoolCatalog.Proofs.Number.Digits
import SchoolCatalog.Query.Request

/-!
# Reading list requests

What a list request asks for, whatever its parameters are. Its conditions compare with texts, flags
and numbers, its order names declared fields, and its page is positive. Following a link writes the
page and limit of the link over those of the request and leaves everything else that the request asks
for as it is.

Results:
1. `parse_plain`: no condition compares with anything but texts, flags and numbers.
2. `parse_follow`: following a link changes the page and its size alone.
-/

namespace SchoolCatalog

/-! ## Conditions -/

/-- What a filter compares with: a text, a flag or a number. -/
inductive Datum.IsPlain : Datum → Prop
  | text (s : String) : IsPlain (.text s)
  | bool (b : Bool) : IsPlain (.bool b)
  | int (i : Int) : IsPlain (.int i)
  | real (x : Binary64) : IsPlain (.real x)

/-- A condition that compares with one such value, or with a list of them. -/
inductive Condition.IsPlain : Condition → Prop
  | single {field : String} {operator : Operator} {value : Datum} (one : operator ≠ .oneOf)
      (plain : value.IsPlain) : IsPlain ⟨field, operator, value⟩
  | among {field : String} {items : List Datum} (plain : ∀ d ∈ items, d.IsPlain) :
      IsPlain ⟨field, .oneOf, .list items⟩

theorem coerceText_plain (kind : Kind) (raw : String) : (kind.coerceText raw).IsPlain := by
  cases kind with
  | text => exact .text raw
  | flag =>
    simp only [Kind.coerceText]
    split
    · exact .bool true
    · split
      · exact .bool false
      · exact .text raw
  | number =>
    simp only [Kind.coerceText]
    split
    · exact .real _
    · exact .text raw
  | integer =>
    simp only [Kind.coerceText]
    split
    · exact .int _
    · split
      · exact .real _
      · exact .text raw

theorem coerce_plain (c : Collection) (field raw : String) :
    (c.coerce field (.text raw)).IsPlain := by
  unfold Collection.coerce
  cases c.kind? field with
  | none => exact .text raw
  | some kind => exact coerceText_plain kind raw

namespace ListRequest

variable {c : Collection}

theorem operand_plain (c : Collection) (field raw : String) (operator : Operator) :
    Condition.IsPlain ⟨field, operator, operand c field operator raw⟩ := by
  by_cases hone : operator = .oneOf
  · subst hone
    refine .among fun d hd => ?_
    obtain ⟨piece, _, rfl⟩ := List.mem_map.1 hd
    exact coerce_plain c field piece
  · refine .single hone ?_
    unfold operand
    cases operator with
    | oneOf => exact absurd rfl hone
    | _ => exact coerce_plain c field raw

theorem readPlain_plain (c : Collection) (field raw : String) :
    (readPlain c field raw).elim Condition.IsPlain Datum.IsPlain := by
  unfold readPlain
  obtain ⟨before, after⟩ := Text.cut ':' raw
  cases after with
  | none => exact coerce_plain c field raw
  | some after =>
    dsimp only
    cases Operator.parse? before with
    | none => exact coerce_plain c field raw
    | some operator => exact operand_plain c field after operator

theorem literalConditions_plain {field : String} {literals : List Datum}
    (h : ∀ d ∈ literals, d.IsPlain) : ∀ cond ∈ literalConditions field literals, cond.IsPlain := by
  intro cond hcond
  match literals with
  | [] => exact nomatch hcond
  | [d] =>
    rw [List.mem_singleton.1 hcond]
    exact .single (by decide) (h d (List.mem_singleton_self d))
  | d :: e :: rest =>
    rw [List.mem_singleton.1 hcond]
    exact .among h

theorem filter_plain (c : Collection) (key : String) (value : Parameter) :
    ∀ cond ∈ filter c key value, cond.IsPlain := by
  intro cond hcond
  unfold filter at hcond
  cases hkey : bracketKey? key with
  | some parts =>
    obtain ⟨field, token⟩ := parts
    rw [hkey] at hcond
    dsimp only at hcond
    cases hoperator : Operator.parse? token with
    | some operator =>
      rw [hoperator] at hcond
      obtain ⟨raw, _, rfl⟩ := List.mem_map.1 hcond
      exact operand_plain c field raw operator
    | none =>
      rw [hoperator] at hcond
      obtain ⟨raw, _, rfl⟩ := List.mem_map.1 hcond
      exact .single (by decide) (.text raw)
  | none =>
    rw [hkey] at hcond
    have hread : ∀ read ∈ value.values.map (readPlain c key),
        read.elim Condition.IsPlain Datum.IsPlain := by
      intro read hread
      obtain ⟨raw, _, rfl⟩ := List.mem_map.1 hread
      exact readPlain_plain c key raw
    rcases List.mem_append.1 hcond with hcond | hcond
    · -- literals of one key are alternatives
      refine literalConditions_plain (fun d hd => ?_) cond hcond
      obtain ⟨read, hmem, hsome⟩ := List.mem_filterMap.1 hd
      cases read with
      | inl other => exact nomatch hsome
      | inr e => exact Option.some.inj hsome ▸ hread _ hmem
    · obtain ⟨read, hmem, hsome⟩ := List.mem_filterMap.1 hcond
      cases read with
      | inl other => exact Option.some.inj hsome ▸ hread _ hmem
      | inr e => exact nomatch hsome

/-- No condition compares with anything but texts, flags and numbers. -/
theorem parse_plain (c : Collection) (params : Parameters) (n : Int) :
    ∀ cond ∈ (parse c params n).conditions, cond.IsPlain := by
  intro cond hcond
  obtain ⟨⟨key, value⟩, _, hcond⟩ := List.mem_flatMap.1 hcond
  dsimp only at hcond
  split at hcond
  · exact nomatch hcond
  · exact filter_plain c key value cond hcond

/-! ## Order and page -/

/-- An order names declared fields. -/
theorem parse_sort (hdefault : ∀ key ∈ c.defaultSort, c.hasField key.field = true)
    (params : Parameters) (n : Int) :
    ∀ key ∈ (parse c params n).sort, c.hasField key.field = true := by
  intro key hkey
  unfold parse at hkey
  dsimp only at hkey
  cases hsort : params.lookup "sort" with
  | none =>
    rw [hsort] at hkey
    exact hdefault key hkey
  | some p =>
    rw [hsort] at hkey
    dsimp only at hkey
    split at hkey
    · exact hdefault key hkey
    · exact (List.mem_filter.1 hkey).2

/-- A number in a parameter is positive and in range unless it is the default. -/
theorem positiveOr_cases (n : Int) (p : Option Parameter) :
    positiveOr n p = n ∨ 0 < positiveOr n p ∧ positiveOr n p ≤ Number.greatestWord := by
  unfold positiveOr
  split
  · exact .inl rfl
  · split
    next m _ =>
      split
      next hrange =>
        simp only [Bool.and_eq_true, decide_eq_true_eq] at hrange
        exact .inr hrange
      next => exact .inl rfl
    next => exact .inl rfl

theorem parse_page (c : Collection) (params : Parameters) (n : Int) :
    0 < (parse c params n).page ∧ (parse c params n).page ≤ Number.greatestWord := by
  show 0 < positiveOr 1 (params.lookup "page") ∧ _
  rcases positiveOr_cases 1 (params.lookup "page") with hone | hrange
  · show 0 < positiveOr 1 (params.lookup "page") ∧ positiveOr 1 (params.lookup "page") ≤ _
    rw [hone]
    decide
  · exact hrange

theorem positiveOr_toString {n : Int} (default : Int) (hpos : 0 < n)
    (hmost : n ≤ Number.greatestWord) : positiveOr default (some (.one (toString n))) = n := by
  have hlast (s : String) : (Parameter.one s).last = s := rfl
  unfold positiveOr
  dsimp only
  rw [hlast, Number.trim_toString (Int.le_of_lt hpos), Number.readInteger_toString hpos hmost]
  simp [hpos, hmost]

end ListRequest

/-! ## Following links -/

namespace Parameters

variable {params : Parameters} {key : String} {value : Parameter}

theorem lookup_put (name : String) :
    (params.put key value).lookup name = if name = key then some value else params.lookup name := by
  induction params with
  | nil =>
    rw [put, List.lookup_cons, List.lookup_nil]
    by_cases hname : name = key
    · simp [hname]
    · rw [beq_false_of_ne hname, if_neg hname]
  | cons entry rest ih =>
    obtain ⟨k, p⟩ := entry
    rw [put]
    by_cases hk : k = key
    · rw [if_pos hk, List.lookup_cons, List.lookup_cons, hk]
      by_cases hname : name = key
      · simp [hname]
      · rw [beq_false_of_ne hname, if_neg hname]
    · rw [if_neg hk, List.lookup_cons, List.lookup_cons, ih]
      by_cases hname : name = k
      · simp [hname, hk]
      · rw [beq_false_of_ne hname]

theorem flatMap_put {β : Type} {f : String × Parameter → List β} (h : ∀ p, f (key, p) = []) :
    (params.put key value).flatMap f = params.flatMap f := by
  induction params with
  | nil => simp [put, h]
  | cons entry rest ih =>
    obtain ⟨k, p⟩ := entry
    rw [put]
    by_cases hk : k = key
    · subst hk
      rw [if_pos rfl, List.flatMap_cons, List.flatMap_cons, h, h]
    · rw [if_neg hk, List.flatMap_cons, List.flatMap_cons, ih]

/-- The parameters of a request that follows a link: its page and limit are written over those of the
request before. -/
def follow (params : Parameters) (link : PageLink) : Parameters :=
  (params.put "page" (.one (toString link.page))).put "limit" (.one (toString link.limit))

theorem lookup_follow {name : String} (hpage : name ≠ "page") (hlimit : name ≠ "limit")
    (link : PageLink) : (params.follow link).lookup name = params.lookup name := by
  rw [follow, lookup_put, if_neg hlimit, lookup_put, if_neg hpage]

end Parameters

namespace ListRequest

/-- Following a link changes the page and its size alone. -/
theorem parse_follow (c : Collection) (params : Parameters) (n : Int) (link : PageLink)
    (hpage : 0 < link.page ∧ link.page ≤ Number.greatestWord)
    (hlimit : 0 < link.limit ∧ link.limit ≤ Number.greatestWord) :
    parse c (params.follow link) n =
      { parse c params n with page := link.page, limit := link.limit } := by
  have hconditions {f : String × Parameter → List Condition} (hpages : ∀ value, f ("page", value) = [])
      (hlimits : ∀ value, f ("limit", value) = []) :
      (params.follow link).flatMap f = params.flatMap f := by
    rw [Parameters.follow, Parameters.flatMap_put hlimits, Parameters.flatMap_put hpages]
  have hselect : (params.follow link).lookup "select" = params.lookup "select" :=
    Parameters.lookup_follow (by decide) (by decide) link
  have hsort : (params.follow link).lookup "sort" = params.lookup "sort" :=
    Parameters.lookup_follow (by decide) (by decide) link
  have hpageText : (params.follow link).lookup "page" = some (.one (toString link.page)) := by
    rw [Parameters.follow, Parameters.lookup_put, if_neg (by decide), Parameters.lookup_put, if_pos rfl]
  have hlimitText : (params.follow link).lookup "limit" = some (.one (toString link.limit)) := by
    rw [Parameters.follow, Parameters.lookup_put, if_pos rfl]
  unfold parse
  rw [hconditions (fun _ => rfl) fun _ => rfl, hselect, hsort, hpageText, hlimitText, positiveOr_toString 1 hpage.1 hpage.2,
    positiveOr_toString n hlimit.1 hlimit.2]

end ListRequest
end SchoolCatalog
