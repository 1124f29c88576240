import Mathlib.Data.List.Basic
import SchoolCatalog.Proofs.Query.Request

/-!
# Gathered parameters

What pairs of keys and values ask for that come in some order, as those of a query text do. The values
of a key are gathered in their order, and keys stand in the order in which they first come. So two lists
of pairs that give every key the same values in the same order make the same parameters, in another order
at most, and only conditions are read off in the order of keys.

Results:
1. `lookup_ofPairs`: what stands under a key are the values that the pairs give to it.
2. `parse_of_sameValues`: two such lists ask for the same, with conditions in another order.
-/

namespace SchoolCatalog

namespace Parameter

/-- What the values of a key make: nothing, one text, or several. -/
def ofValues? : List String → Option Parameter
  | [] => none
  | [s] => some (.one s)
  | ss => some (.many ss)

/-- What a key holds that is given one more value. -/
def grown (p : Option Parameter) (value : String) : Parameter :=
  match p with
  | none => .one value
  | some p => .many (p.values ++ [value])

theorem grown_ofValues? (values : List String) (value : String) :
    some (grown (ofValues? values) value) = ofValues? (values ++ [value]) := by
  match values with
  | [] => rfl
  | [s] => rfl
  | s :: t :: rest => rfl

end Parameter

namespace Parameters

variable {params : Parameters} {first second : List (String × String)}

/-! ## Adding values -/

theorem lookup_add (params : Parameters) (key value name : String) :
    (params.add key value).lookup name =
      if name = key then some (.grown (params.lookup key) value) else params.lookup name := by
  induction params with
  | nil =>
    rw [add, List.lookup_cons, List.lookup_nil]
    by_cases hname : name = key
    · simp [hname, Parameter.grown]
    · rw [beq_false_of_ne hname, if_neg hname]
  | cons entry rest ih =>
    obtain ⟨k, p⟩ := entry
    rw [add]
    by_cases hk : k = key
    · subst hk
      rw [if_pos rfl, List.lookup_cons, List.lookup_cons, List.lookup_cons, beq_self_eq_true]
      by_cases hname : name = k
      · rw [if_pos hname, hname, beq_self_eq_true]
        rfl
      · rw [beq_false_of_ne hname, if_neg hname]
    · rw [if_neg hk, List.lookup_cons, List.lookup_cons, List.lookup_cons, ih,
        beq_false_of_ne (Ne.symm hk)]
      by_cases hname : name = k
      · subst hname
        rw [beq_self_eq_true]
        exact (if_neg hk).symm
      · rw [beq_false_of_ne hname]

theorem mem_keys_add {key value name : String} :
    name ∈ (params.add key value).map (·.1) ↔ name ∈ params.map (·.1) ∨ name = key := by
  induction params with
  | nil => simp [add]
  | cons entry rest ih =>
    obtain ⟨k, p⟩ := entry
    rw [add]
    by_cases hk : k = key
    · subst hk
      rw [if_pos rfl, List.map_cons, List.map_cons, List.mem_cons]
      tauto
    · rw [if_neg hk, List.map_cons, List.map_cons, List.mem_cons, List.mem_cons, ih, or_assoc]

theorem nodup_add (h : (params.map (·.1)).Nodup) (key value : String) :
    ((params.add key value).map (·.1)).Nodup := by
  induction params with
  | nil => exact List.nodup_singleton key
  | cons entry rest ih =>
    obtain ⟨k, p⟩ := entry
    obtain ⟨hnew, hrest⟩ := List.nodup_cons.1 h
    rw [add]
    by_cases hk : k = key
    · rwa [if_pos hk]
    · rw [if_neg hk]
      refine List.nodup_cons.2 ⟨fun hmem => ?_, ih hrest⟩
      exact (mem_keys_add.1 hmem).elim hnew hk

/-- A value of a new key comes after what stands already. -/
theorem add_append {key : String} (h : key ∉ params.map (·.1)) (rest : Parameters) (value : String) :
    (params ++ rest).add key value = params ++ rest.add key value := by
  induction params with
  | nil => rfl
  | cons entry others ih =>
    obtain ⟨k, p⟩ := entry
    obtain ⟨hk, hothers⟩ := not_or.1 (mt List.mem_cons.2 h)
    rw [List.cons_append, add, if_neg (Ne.symm hk), ih hothers]
    rfl

/-! ## Pairs -/

/-- The values that pairs give to a key, in their order. -/
def valuesOf (pairs : List (String × String)) (key : String) : List String :=
  (pairs.filter fun pair => pair.1 = key).map (·.2)

theorem valuesOf_append (front back : List (String × String)) (key : String) :
    valuesOf (front ++ back) key = valuesOf front key ++ valuesOf back key := by
  rw [valuesOf, List.filter_append, List.map_append]
  rfl

theorem ofPairs_concat (pairs : List (String × String)) (pair : String × String) :
    ofPairs (pairs ++ [pair]) = (ofPairs pairs).add pair.1 pair.2 :=
  List.foldl_concat ..

/-- What stands under a key are the values that the pairs give to it. -/
theorem lookup_ofPairs (pairs : List (String × String)) (key : String) :
    (ofPairs pairs).lookup key = Parameter.ofValues? (valuesOf pairs key) := by
  induction pairs using List.reverseRecOn with
  | nil => rfl
  | append_singleton rest pair ih =>
    rw [ofPairs_concat, lookup_add, valuesOf_append]
    by_cases hkey : key = pair.1
    · subst hkey
      rw [if_pos rfl, ih, Parameter.grown_ofValues?]
      simp [valuesOf]
    · rw [if_neg hkey, ih]
      simp [valuesOf, Ne.symm hkey]

theorem nodup_ofPairs (pairs : List (String × String)) : ((ofPairs pairs).map (·.1)).Nodup := by
  induction pairs using List.reverseRecOn with
  | nil => exact List.nodup_nil
  | append_singleton rest pair ih =>
    rw [ofPairs_concat]
    exact nodup_add ih pair.1 pair.2

/-- A new key that is given one value many times comes last and holds all of them. -/
theorem ofPairs_replicate {front : List (String × String)} {key : String}
    (h : key ∉ (ofPairs front).map (·.1)) (value : String) (n : Nat) :
    ofPairs (front ++ List.replicate (n + 2) (key, value)) =
      ofPairs front ++ [(key, .many (List.replicate (n + 2) value))] := by
  have hlast (values : List String) :
      add (ofPairs front ++ [(key, .many values)]) key value =
        ofPairs front ++ [(key, .many (values ++ [value]))] := by
    rw [add_append h, add, if_pos rfl]
    rfl
  induction n with
  | zero =>
    have hone : ofPairs (front ++ [(key, value)]) = ofPairs front ++ [(key, .one value)] := by
      have hnew := add_append h [] value
      rw [List.append_nil] at hnew
      rw [ofPairs_concat, hnew]
      rfl
    rw [show front ++ List.replicate (0 + 2) (key, value) =
      front ++ [(key, value)] ++ [(key, value)] by simp [List.replicate], ofPairs_concat, hone,
      add_append h, add, if_pos rfl]
    rfl
  | succ n ih =>
    rw [List.replicate_succ', ← List.append_assoc, ofPairs_concat, ih, hlast, ← List.replicate_succ']

/-! ## Pairs in another order -/

/-- Two lists of pairs give every key the same values in the same order. -/
def SameValues (first second : List (String × String)) : Prop :=
  ∀ key, valuesOf first key = valuesOf second key

/-- Pairs without a key in common can change places. -/
theorem sameValues_append_comm {front back : List (String × String)}
    (h : ∀ p ∈ front, ∀ q ∈ back, p.1 ≠ q.1) : SameValues (front ++ back) (back ++ front) := by
  intro key
  rw [valuesOf_append, valuesOf_append]
  by_cases hkey : ∃ p ∈ front, p.1 = key
  · obtain ⟨p, hp, rfl⟩ := hkey
    have hnone : valuesOf back p.1 = [] := by
      rw [valuesOf, List.map_eq_nil_iff, List.filter_eq_nil_iff]
      exact fun q hq => by simpa using Ne.symm (h p hp q hq)
    rw [hnone, List.append_nil, List.nil_append]
  · have hnone : valuesOf front key = [] := by
      rw [valuesOf, List.map_eq_nil_iff, List.filter_eq_nil_iff]
      exact fun p hp => by simpa using fun hsame => hkey ⟨p, hp, hsame⟩
    rw [hnone, List.nil_append, List.append_nil]

theorem SameValues.lookup_eq (same : SameValues first second) (key : String) :
    (ofPairs first).lookup key = (ofPairs second).lookup key := by
  rw [lookup_ofPairs, lookup_ofPairs, same key]

/-- Where no key stands twice, an entry is known by what stands under its key. -/
theorem mem_iff_lookup (h : (params.map (·.1)).Nodup) {key : String} {value : Parameter} :
    (key, value) ∈ params ↔ params.lookup key = some value := by
  induction params with
  | nil => simp
  | cons entry rest ih =>
    obtain ⟨k, p⟩ := entry
    obtain ⟨hnew, hrest⟩ := List.nodup_cons.1 h
    rw [List.mem_cons, List.lookup_cons, Prod.mk.injEq]
    by_cases hkey : key = k
    · subst hkey
      have hout : (key, value) ∉ rest := fun hmem => hnew (List.mem_map_of_mem (f := (·.1)) hmem)
      rw [beq_self_eq_true, Option.some.injEq]
      exact ⟨fun h => (h.resolve_right hout).2.symm, fun h => .inl ⟨rfl, h.symm⟩⟩
    · rw [beq_false_of_ne hkey, ← ih hrest]
      exact ⟨fun h => h.resolve_left fun hsame => hkey hsame.1, .inr⟩

theorem SameValues.perm (same : SameValues first second) : (ofPairs first).Perm (ofPairs second) := by
  have hfirst := nodup_ofPairs first
  have hsecond := nodup_ofPairs second
  refine (List.perm_ext_iff_of_nodup hfirst.of_map hsecond.of_map).2 fun entry => ?_
  rw [mem_iff_lookup hfirst, mem_iff_lookup hsecond, same.lookup_eq]

/-- Pairs that give every key the same values ask for the same, with conditions in another order. -/
theorem parse_of_sameValues (same : SameValues first second) (c : Collection) (n : Int) :
    ∃ conditions, (ListRequest.parse c (ofPairs first) n).conditions.Perm conditions ∧
      ListRequest.parse c (ofPairs second) n =
        { ListRequest.parse c (ofPairs first) n with conditions } := by
  refine ⟨(ListRequest.parse c (ofPairs second) n).conditions, same.perm.flatMap_right _, ?_⟩
  unfold ListRequest.parse
  rw [same.lookup_eq, same.lookup_eq, same.lookup_eq, same.lookup_eq]

end Parameters
end SchoolCatalog
