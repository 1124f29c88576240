import SchoolCatalog.Form.Draft

/-!
# Records

What stands in a record after values were put into it, and in one of the values that are given.

Results:
1. `mem_put`, `mem_put_self`, `mem_put_of_ne`: the entries.
2. `get?_put`, `nodup_put`, `has_eq_false`: the fields, and their names.
3. `putAll_of_nodup`, `putAll_of_subset`: values under names of their own, and under names that stand
   there.
4. `get?_only`, `only_eq`: what is kept of a record under some names.
5. `mem_given`, `given_of_mem`, `names_given`: the values that are given.
-/

namespace SchoolCatalog

namespace Record

variable {record : Record} {name : String} {value : Datum} {entry : String × Datum}

theorem mem_put_self (record : Record) (name : String) (value : Datum) :
    (name, value) ∈ put record name value := by
  induction record with
  | nil => exact List.mem_singleton_self _
  | cons e rest ih =>
    unfold put
    split
    next heq => exact heq ▸ List.mem_cons_self ..
    next => exact List.mem_cons_of_mem _ ih

theorem mem_put (h : entry ∈ put record name value) : entry ∈ record ∨ entry = (name, value) := by
  induction record with
  | nil => exact .inr (List.mem_singleton.1 h)
  | cons e rest ih =>
    unfold put at h
    split at h
    next heq =>
      rcases List.mem_cons.1 h with h | h
      · exact .inr (h.trans (by rw [heq]))
      · exact .inl (List.mem_cons_of_mem _ h)
    next =>
      rcases List.mem_cons.1 h with h | h
      · exact .inl (h ▸ List.mem_cons_self ..)
      · exact (ih h).imp_left (List.mem_cons_of_mem _)

theorem mem_put_of_ne (h : entry ∈ record) (hne : entry.1 ≠ name) : entry ∈ put record name value := by
  induction record with
  | nil => exact nomatch h
  | cons e rest ih =>
    unfold put
    split
    next heq =>
      rcases List.mem_cons.1 h with rfl | h
      · exact absurd heq hne
      · exact List.mem_cons_of_mem _ h
    next =>
      rcases List.mem_cons.1 h with rfl | h
      · exact List.mem_cons_self ..
      · exact List.mem_cons_of_mem _ (ih h)

theorem mem_putAll {other : Record} (h : entry ∈ putAll record other) :
    entry ∈ record ∨ entry ∈ other := by
  induction other generalizing record with
  | nil => exact .inl h
  | cons e rest ih =>
    rcases ih h with h | h
    · rcases mem_put h with h | h
      · exact .inl h
      · exact .inr (h ▸ List.mem_cons_self ..)
    · exact .inr (List.mem_cons_of_mem _ h)

theorem get?_put (record : Record) (name : String) (value : Datum) (other : String) :
    get? (put record name value) other = if other = name then some value else get? record other := by
  induction record with
  | nil =>
    unfold get? put
    rw [List.lookup_cons, List.lookup_nil]
    by_cases h : other = name
    · rw [if_pos h, beq_iff_eq.2 h]
    · rw [if_neg h, beq_false_of_ne h]
  | cons entry rest ih =>
    unfold get? at ih ⊢
    unfold put
    split
    next heq =>
      rw [List.lookup_cons, List.lookup_cons, heq]
      by_cases h : other = name
      · rw [if_pos h, beq_iff_eq.2 h]
      · rw [if_neg h, beq_false_of_ne h]
    next hne =>
      rw [List.lookup_cons, List.lookup_cons, ih]
      by_cases h : other = entry.1
      · rw [beq_iff_eq.2 h]
        exact (if_neg fun hname => hne (h.symm.trans hname)).symm
      · rw [beq_false_of_ne h]

theorem field_put_self (record : Record) (name : String) (value : Datum) :
    field (put record name value) name = value := by
  rw [field, get?_put, if_pos rfl, Option.getD_some]

theorem field_put_of_ne {other : String} (h : other ≠ name) :
    field (put record name value) other = field record other := by
  rw [field, get?_put, if_neg h, field]

theorem field_remove_of_ne (record : Record) {other : String} (h : other ≠ name) :
    field (remove record name) other = field record other := by
  have hlookup : (remove record name).lookup other = record.lookup other := by
    induction record with
    | nil => rfl
    | cons entry rest ih =>
      obtain ⟨n, v⟩ := entry
      by_cases hsame : n = name
      · have hgone : remove ((n, v) :: rest) name = remove rest name :=
          List.filter_cons_of_neg (by simpa using hsame)
        rw [hgone, ih, List.lookup_cons, hsame, beq_false_of_ne h]
      · have hstays : remove ((n, v) :: rest) name = (n, v) :: remove rest name :=
          List.filter_cons_of_pos (by simpa using hsame)
        rw [hstays, List.lookup_cons, List.lookup_cons, ih]
  rw [field, get?, hlookup]
  rfl

/-- Putting a value keeps names different. -/
theorem nodup_put (h : (names record).Nodup) (name : String) (value : Datum) :
    (names (put record name value)).Nodup := by
  have hmem {e : String} {record : Record} (he : e ∈ names (put record name value)) :
      e ∈ names record ∨ e = name := by
    obtain ⟨entry, hentry, rfl⟩ := List.mem_map.1 he
    exact (mem_put hentry).imp (List.mem_map_of_mem (f := Prod.fst)) (congrArg Prod.fst)
  induction record with
  | nil => exact List.nodup_cons.2 ⟨List.not_mem_nil, List.nodup_nil⟩
  | cons entry rest ih =>
    obtain ⟨hnew, hrest⟩ := List.nodup_cons.1 h
    unfold put
    split
    next => exact h
    next hne =>
      refine List.nodup_cons.2 ⟨fun hentry => ?_, ih hrest⟩
      rcases hmem hentry with hold | hsame
      · exact hnew hold
      · exact hne hsame

theorem put_new (h : name ∉ names record) (value : Datum) :
    put record name value = record ++ [(name, value)] := by
  induction record with
  | nil => rfl
  | cons entry record ih =>
    rw [names, List.map_cons, List.mem_cons, not_or] at h
    rw [put, if_neg (Ne.symm h.1), ih h.2]
    rfl

theorem has_eq_false (h : name ∉ names record) : has record name = false := by
  have hnone : record.lookup name = none := by
    rw [List.lookup_eq_none_iff]
    intro entry hentry
    rw [bne_iff_ne]
    rintro rfl
    exact h (List.mem_map_of_mem hentry)
  rw [has, get?, hnone]
  rfl

/-- Values under names of their own stand after those that were there. -/
theorem putAll_of_nodup {other : Record} (h : (names (record ++ other)).Nodup) :
    putAll record other = record ++ other := by
  induction other generalizing record with
  | nil => exact (List.append_nil record).symm
  | cons entry rest ih =>
    have hnew : entry.1 ∉ names record := by
      rw [names, List.map_append, List.map_cons, List.nodup_append] at h
      exact fun hmem => h.2.2 _ hmem _ (List.mem_cons_self ..) rfl
    show putAll (put record entry.1 entry.2) rest = _
    rw [put_new hnew, ih (by rwa [List.append_assoc]), List.append_assoc]
    rfl

/-- Putting a value under a name that stands there changes that value. -/
theorem put_of_mem (hnodup : (names record).Nodup) (h : name ∈ names record) (value : Datum) :
    put record name value = record.map fun entry =>
      (entry.1, if entry.1 = name then value else entry.2) := by
  induction record with
  | nil => exact nomatch h
  | cons entry rest ih =>
    obtain ⟨hnew, hrest⟩ := List.nodup_cons.1 hnodup
    rw [put, List.map_cons]
    split
    next hsame =>
      have hstays : (rest.map fun entry => (entry.1, if entry.1 = name then value else entry.2)) = rest := by
        refine (List.map_congr_left fun other hother => ?_).trans (List.map_id rest)
        have hne : other.1 ≠ name := by
          rintro rfl
          exact hnew (List.mem_map.2 ⟨other, hother, hsame.symm⟩)
        rw [if_neg hne]
        rfl
      rw [hstays]
    next hne => rw [ih hrest ((List.mem_cons.1 h).resolve_left (Ne.symm hne))]

/-- Values under names that stand in a record take the place of what stood there. -/
theorem putAll_of_subset {other : Record} (hnodup : (names record).Nodup) (hother : (names other).Nodup)
    (h : names other ⊆ names record) :
    putAll record other = record.map fun entry => (entry.1, (get? other entry.1).getD entry.2) := by
  induction other generalizing record with
  | nil => exact (List.map_id record).symm
  | cons entry rest ih =>
    obtain ⟨hnew, hrest⟩ := List.nodup_cons.1 hother
    have hput := put_of_mem hnodup (h (List.mem_cons_self ..)) entry.2
    have hnames : names (put record entry.1 entry.2) = names record := by
      rw [hput, names, List.map_map]
      rfl
    show putAll (put record entry.1 entry.2) rest = _
    rw [ih (hnames ▸ hnodup) hrest fun name hname => hnames ▸ h (List.mem_cons_of_mem _ hname), hput,
      List.map_map]
    refine List.map_congr_left fun stood _ => Prod.ext rfl ?_
    show (get? rest stood.1).getD (if stood.1 = entry.1 then entry.2 else stood.2) =
      (get? (entry :: rest) stood.1).getD stood.2
    rw [get?, get?, List.lookup_cons]
    by_cases hsame : stood.1 = entry.1
    · have hnone : rest.lookup stood.1 = none := by
        rw [List.lookup_eq_none_iff]
        exact fun later hlater => bne_iff_ne.2 fun hname =>
          hnew (List.mem_map.2 ⟨later, hlater, hname.symm.trans hsame⟩)
      rw [hnone, if_pos hsame, beq_iff_eq.2 hsame]
      rfl
    · rw [if_neg hsame, beq_false_of_ne hsame]

/-- Pairs with different names are a record as they are. -/
theorem ofPairs_of_nodup {entries : Record} (h : (names entries).Nodup) :
    ofPairs entries = entries :=
  @putAll_of_nodup [] entries h

/-- What is kept of a record under some names is what stood there. -/
theorem get?_only (record : Record) (names : List String) (name : String) :
    get? (only record names) name = if name ∈ names then get? record name else none := by
  induction names with
  | nil => rfl
  | cons n rest ih =>
    have hmember : name ∈ n :: rest ↔ name = n ∨ name ∈ rest := List.mem_cons
    rw [only, List.filterMap_cons]
    cases hvalue : get? record n with
    | none =>
      show get? (only record rest) name = _
      rw [ih]
      by_cases hname : name = n
      · rw [hname, if_pos (List.mem_cons_self ..), hvalue, ite_self]
      · simp only [hmember, hname, false_or]
    | some value =>
      show List.lookup name ((n, value) :: only record rest) = _
      rw [List.lookup_cons]
      by_cases hname : name = n
      · rw [beq_iff_eq.2 hname, if_pos (hmember.2 (.inl hname)), hname, hvalue]
      · rw [beq_false_of_ne hname]
        simp only [hmember, hname, false_or]
        exact ih

/-- What is kept under names that all stand. -/
theorem only_eq {names : List String} {value : String → Datum}
    (h : ∀ n ∈ names, get? record n = some (value n)) :
    only record names = names.map fun n => (n, value n) := by
  induction names with
  | nil => rfl
  | cons n rest ih =>
    rw [only, List.filterMap_cons_some (b := (n, value n)) (by rw [h n (List.mem_cons_self ..)]; rfl),
      List.map_cons]
    exact congrArg _ (ih fun m hm => h m (List.mem_cons_of_mem n hm))

end Record

/-! ## Values that are given -/

theorem mem_given {values : List (String × Option Datum)} {name : String} {d : Datum}
    (h : (name, d) ∈ given values) : (name, some d) ∈ values := by
  obtain ⟨⟨n, value⟩, hmem, hmap⟩ := List.mem_filterMap.1 h
  cases value with
  | none => exact nomatch hmap
  | some d' =>
    cases hmap
    exact hmem

theorem given_of_mem {values : List (String × Option Datum)} {name : String} {d : Datum}
    (h : (name, some d) ∈ values) : (name, d) ∈ given values :=
  List.mem_filterMap.2 ⟨_, h, rfl⟩

/-- What is given stands under names of the fields, in their order. -/
theorem names_given (values : List (String × Option Datum)) :
    (Record.names (given values)).Sublist (values.map (·.1)) := by
  induction values with
  | nil => exact .slnil
  | cons entry rest ih =>
    obtain ⟨name, value⟩ := entry
    cases value with
    | none => exact ih.cons name
    | some d => exact ih.cons_cons name

end SchoolCatalog
