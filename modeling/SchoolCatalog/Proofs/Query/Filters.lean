import Mathlib.Data.List.Basic
import SchoolCatalog.Proofs.Store.Matching

/-!
# Filters

What parameters ask for that hold filters of the form `field[operator]`: one condition for each filter,
in whatever way the values of one key are gathered.

Results:
1. `bracketKey?_ended`: the field and the operator of such a key are read back.
2. `conditions_of_asks`: the conditions are those of the filters.
-/

namespace SchoolCatalog

open ListRequest

/-- A filter: a field, an operator and the text of what is asked for. -/
structure Filter where
  field : String
  operator : Operator
  raw : String

namespace Filter

variable {c : Collection} {f : Filter}

/-- The key of a filter and its value. -/
def pair (f : Filter) : String × String := (f.field ++ "[" ++ f.operator.name ++ "]", f.raw)

/-- The texts that a filter lists: for `in`, the pieces of its text. -/
def items (f : Filter) : List String :=
  match f.operator with
  | .oneOf => splitList f.raw
  | _ => [f.raw]

/-- The values that a filter asks for. -/
def operands (c : Collection) (f : Filter) : List Datum :=
  f.items.map fun item => c.coerce f.field (.text item)

/-- The condition of a filter. -/
def condition (c : Collection) (f : Filter) : Condition :=
  ⟨f.field, f.operator, operand c f.field f.operator f.raw⟩

/-- The condition compares with the values that are asked for. -/
theorem operands_condition (c : Collection) (f : Filter) :
    (f.condition c).operands = f.operands c := by
  obtain ⟨field, operator, raw⟩ := f
  cases operator with
  | oneOf => rfl
  | _ =>
    have hplain := coerce_plain c field raw
    show Condition.operands ⟨field, _, c.coerce field (.text raw)⟩ = [c.coerce field (.text raw)]
    generalize c.coerce field (.text raw) = d at hplain
    cases hplain <;> rfl

/-- For `in`, a list of values is asked for. -/
theorem condition_among (c : Collection) (h : f.operator = .oneOf) :
    f.condition c = ⟨f.field, .oneOf, .list (f.operands c)⟩ := by
  obtain ⟨field, operator, raw⟩ := f
  cases h
  rfl

/-- For an operator other than `in`, one value is asked for. -/
theorem condition_single (c : Collection) (h : f.operator ≠ .oneOf) :
    ∃ d, f.operands c = [d] ∧ f.condition c = ⟨f.field, f.operator, d⟩ := by
  obtain ⟨field, operator, raw⟩ := f
  refine ⟨c.coerce field (.text raw), ?_⟩
  cases operator with
  | oneOf => exact absurd rfl h
  | _ => exact ⟨rfl, rfl⟩

end Filter

/-! ## Keys -/

/-- Whether a text has no brackets in it. -/
def Unbracketed (s : String) : Prop := (s.toList.all fun ch => !(ch == '[' || ch == ']')) = true

namespace ListRequest

/-- The field and the operator of a key are read back; a line end may follow. -/
theorem bracketKey?_ended {field token : String} {tail : List Char} (hne : field ≠ "")
    (hfield : Unbracketed field) (htoken : Unbracketed token)
    (htail : tail = [']'] ∨ tail = [']', '\n']) :
    bracketKey? (field ++ "[" ++ token ++ String.ofList tail) = some (field, token) := by
  have hchars : (field ++ "[" ++ token ++ String.ofList tail).toList =
      field.toList ++ '[' :: (token.toList ++ tail) := by
    simp [String.toList_append]
  have hkept {s : String} (h : Unbracketed s) : ∀ ch ∈ s.toList, (!(ch == '[' || ch == ']')) = true :=
    List.all_eq_true.1 h
  have hstop : tail.takeWhile (fun ch => !(ch == '[' || ch == ']')) = [] ∧
      tail.dropWhile (fun ch => !(ch == '[' || ch == ']')) = tail := by
    rcases htail with rfl | rfl <;> decide
  unfold bracketKey?
  simp only [hchars]
  rw [List.takeWhile_append_of_pos (hkept hfield), List.dropWhile_append_of_pos (hkept hfield),
    List.takeWhile_cons_of_neg (by decide), List.dropWhile_cons_of_neg (by decide)]
  show (if _ then some (_, String.ofList (List.takeWhile _ (token.toList ++ tail))) else none) = _
  rw [List.takeWhile_append_of_pos (hkept htoken), List.dropWhile_append_of_pos (hkept htoken),
    hstop.1, hstop.2]
  simp [hne, htail]

theorem bracketKey?_bracketed {field token : String} (hne : field ≠ "") (hfield : Unbracketed field)
    (htoken : Unbracketed token) :
    bracketKey? (field ++ "[" ++ token ++ "]") = some (field, token) :=
  bracketKey?_ended hne hfield htoken (.inl rfl)

theorem unbracketed_name (operator : Operator) : Unbracketed operator.name := by
  cases operator <;> (unfold Unbracketed; decide)

theorem parse_name (operator : Operator) : Operator.parse? operator.name = some operator := by
  cases operator <;> decide

/-- A field whose name can stand before a bracket. -/
def IsOpening (field : String) : Prop := field ≠ "" ∧ Unbracketed field

/-- One filter makes one condition. -/
theorem filter_pair (c : Collection) {f : Filter} (hopening : IsOpening f.field) (value : Parameter) :
    filter c f.pair.1 value =
      value.values.map fun raw => ({ f with raw } : Filter).condition c := by
  unfold filter
  rw [Filter.pair, bracketKey?_bracketed hopening.1 hopening.2 (unbracketed_name f.operator)]
  dsimp only
  rw [parse_name]
  rfl

/-- The values that are gathered under a key with brackets make a condition each. -/
theorem filter_gathered (c : Collection) {key : String} {value : Parameter}
    (h : ∀ raw ∈ value.values, ∃ f : Filter, IsOpening f.field ∧ f.pair = (key, raw)) :
    filter c key value = value.values.flatMap fun raw => filter c key (.one raw) := by
  cases hvalues : value.values with
  | nil =>
    unfold filter
    rw [hvalues, List.flatMap_nil]
    rcases bracketKey? key with _ | ⟨field, token⟩
    · rfl
    · dsimp only
      cases Operator.parse? token <;> rfl
  | cons first rest =>
    obtain ⟨f, hopening, hpair⟩ := h first (by rw [hvalues]; exact List.mem_cons_self)
    have hkey : f.pair.1 = key := congrArg Prod.fst hpair
    have hone (raw : String) : filter c key (.one raw) = [({ f with raw } : Filter).condition c] := by
      rw [← hkey, filter_pair c hopening]
      rfl
    rw [← hkey, filter_pair c hopening, hkey, hvalues, List.map_eq_flatMap]
    exact List.flatMap_congr fun raw _ => (hone raw).symm

end ListRequest

/-! ## Parameters -/

namespace Parameters

/-- The keys that parameters filter by, each with one value. -/
def filtering (params : Parameters) : List (String × String) :=
  params.flatMap fun (key, value) =>
    if reserved.contains key then [] else value.values.map fun raw => (key, raw)

/-- The parameters that filter are those of some filters, in any order; others may name fields, an order
and a page. -/
def Asks (params : Parameters) (filters : List Filter) : Prop :=
  params.filtering.Perm (filters.map Filter.pair)

variable {c : Collection} {params : Parameters} {filters : List Filter}

/-- The conditions are those of the filters. -/
theorem conditions_of_asks (asks : params.Asks filters) (hopening : ∀ f ∈ filters, IsOpening f.field)
    (n : Int) : (parse c params n).conditions.Perm (filters.map (Filter.condition c)) := by
  have hpair : ∀ pair ∈ params.filtering, ∃ f : Filter, IsOpening f.field ∧ f.pair = pair := by
    intro pair hpair
    obtain ⟨f, hf, hsame⟩ := List.mem_map.1 (asks.mem_iff.1 hpair)
    exact ⟨f, hopening f hf, hsame⟩
  -- values that are gathered under one key are read as if each had a key of its own
  have hgathered : (parse c params n).conditions =
      params.filtering.flatMap fun pair => filter c pair.1 (.one pair.2) := by
    rw [filtering, List.flatMap_assoc]
    refine List.flatMap_congr fun entry hentry => ?_
    obtain ⟨key, value⟩ := entry
    dsimp only
    cases hreserved : reserved.contains key with
    | true => rfl
    | false =>
      rw [if_neg Bool.false_ne_true, if_neg Bool.false_ne_true, List.flatMap_map]
      refine filter_gathered c fun raw hraw => hpair (key, raw) (List.mem_flatMap.2 ⟨_, hentry, ?_⟩)
      dsimp only
      rw [hreserved]
      exact List.mem_map_of_mem hraw
  rw [hgathered]
  refine (asks.flatMap_right _).trans (.of_eq ?_)
  rw [List.flatMap_map, List.map_eq_flatMap]
  exact List.flatMap_congr fun f hf => filter_pair c (hopening f hf) (.one f.raw)

end Parameters
end SchoolCatalog
