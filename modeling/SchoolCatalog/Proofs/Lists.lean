import Mathlib

/-!
# Lists

Facts about searching and sorting lists and about keeping what differs, which the tables, the columns and
the keys of records share.
-/

namespace SchoolCatalog

variable {α : Type}

/-- What is the only one to satisfy a test is found. -/
theorem find?_eq_some_of_unique {p : α → Bool} {items : List α} {a : α} (ha : a ∈ items)
    (hp : p a = true) (hunique : ∀ b ∈ items, p b = true → b = a) : items.find? p = some a := by
  cases hfind : items.find? p with
  | none => exact absurd hp (List.find?_eq_none.1 hfind a ha)
  | some b => rw [hunique b (List.mem_of_find?_eq_some hfind) (List.find?_some hfind)]

/-- Keeping the first of all that are the same keeps everything where no two are. -/
theorem foldl_distinct (same : α → α → Bool) {items : List α} (acc : List α)
    (h : (acc ++ items).Pairwise fun a b => same a b = false) :
    items.foldl (fun kept a => if kept.any (same · a) then kept else kept ++ [a]) acc =
      acc ++ items := by
  induction items generalizing acc with
  | nil => rw [List.foldl_nil, List.append_nil]
  | cons a rest ih =>
    have hnew : (acc.any (same · a)) = false := by
      rw [List.any_eq_false]
      intro b hb
      have := (List.pairwise_append.1 h).2.2 b hb a (List.mem_cons_self ..)
      simp [this]
    rw [List.foldl_cons, hnew, if_neg Bool.false_ne_true, ih]
    · rw [List.append_assoc, List.singleton_append]
    · rwa [List.append_assoc, List.singleton_append]

/-- In a list without repetitions of a mark, an item is known by its mark. -/
theorem eq_of_mark_eq {β : Type} {mark : α → β} {items : List α} (h : (items.map mark).Nodup)
    {a b : α} (ha : a ∈ items) (hb : b ∈ items) (hmark : mark a = mark b) : a = b := by
  induction items with
  | nil => exact nomatch ha
  | cons c rest ih =>
    rw [List.map_cons, List.nodup_cons] at h
    rcases List.mem_cons.1 ha with rfl | ha'
    · rcases List.mem_cons.1 hb with rfl | hb'
      · rfl
      · exact absurd (List.mem_map.2 ⟨b, hb', hmark.symm⟩) h.1
    · rcases List.mem_cons.1 hb with rfl | hb'
      · exact absurd (List.mem_map.2 ⟨a, ha', hmark⟩) h.1
      · exact ih h.2 ha' hb'

theorem mem_of_lookup [BEq α] [LawfulBEq α] {β : Type} {a : α} {b : β} {entries : List (α × β)}
    (h : entries.lookup a = some b) : (a, b) ∈ entries := by
  obtain ⟨front, back, rfl, _⟩ := List.lookup_eq_some_iff.1 h
  exact List.mem_append_right front (List.mem_cons_self ..)

/-- What stands under a name where each value was changed on its own. -/
theorem lookup_map_values {β γ : Type} (f : String → β → γ) (entries : List (String × β))
    (name : String) :
    (entries.map fun entry => (entry.1, f entry.1 entry.2)).lookup name =
      (entries.lookup name).map (f name) := by
  induction entries with
  | nil => rfl
  | cons entry rest ih =>
    rw [List.map_cons, List.lookup_cons, List.lookup_cons]
    by_cases h : name = entry.1
    · rw [h, beq_self_eq_true]
      rfl
    · rw [beq_false_of_ne h]
      exact ih

/-! ## Going through a list until something fails -/

variable {β ε : Type}

/-- A step that goes on succeeds if both of its parts do. -/
theorem bind_eq_ok {x : Except ε α} {f : α → Except ε β} {b : β} :
    (x >>= f) = .ok b ↔ ∃ a, x = .ok a ∧ f a = .ok b := by
  cases x with
  | error fault => exact ⟨fun h => (nomatch h), fun ⟨_, h, _⟩ => (nomatch h)⟩
  | ok a => exact ⟨fun h => ⟨a, rfl, h⟩, fun ⟨_, h, hf⟩ => Except.ok.inj h ▸ hf⟩

theorem bind_eq_error {x : Except ε α} {f : α → Except ε β} {fault : ε} :
    (x >>= f) = .error fault ↔ x = .error fault ∨ ∃ a, x = .ok a ∧ f a = .error fault := by
  cases x with
  | error other =>
    constructor
    · exact fun h => .inl (congrArg _ (Except.error.inj h))
    · rintro (h | ⟨_, h, _⟩)
      · exact congrArg _ (Except.error.inj h)
      · exact nomatch h
  | ok a =>
    constructor
    · exact fun h => .inr ⟨a, rfl, h⟩
    · rintro (h | ⟨_, h, hf⟩)
      · exact nomatch h
      · exact Except.ok.inj h ▸ hf

theorem toOption_eq_some {x : Except ε α} {a : α} : x.toOption = some a ↔ x = .ok a := by
  cases x with
  | error fault => exact ⟨fun h => (nomatch h), fun h => (nomatch h)⟩
  | ok b => exact ⟨fun h => congrArg _ (Option.some.inj h), fun h => congrArg _ (Except.ok.inj h)⟩

theorem exists_of_isOk {x : Except ε α} (h : x.isOk = true) : ∃ a, x = .ok a := by
  cases x with
  | error fault => exact nomatch h
  | ok a => exact ⟨a, rfl⟩

theorem map_eq_ok {x : Except ε α} {f : α → β} {b : β} :
    x.map f = .ok b ↔ ∃ a, x = .ok a ∧ f a = b := by
  cases x with
  | error fault => exact ⟨fun h => (nomatch h), fun ⟨_, h, _⟩ => (nomatch h)⟩
  | ok a => exact ⟨fun h => ⟨a, rfl, Except.ok.inj h⟩, fun ⟨_, h, hf⟩ => by cases h; rw [← hf]; rfl⟩

theorem mapM_cons_ok {f : α → Except ε β} {a : α} {items : List α} {b : β} {results : List β}
    (hhead : f a = .ok b) (htail : items.mapM f = .ok results) :
    (a :: items).mapM f = .ok (b :: results) := by
  rw [List.mapM_cons, hhead, htail]
  rfl

theorem mapM_congr {f g : α → Except ε β} {items : List α} (h : ∀ a ∈ items, f a = g a) :
    items.mapM f = items.mapM g := by
  induction items with
  | nil => rfl
  | cons a rest ih =>
    rw [List.mapM_cons, List.mapM_cons, h a (List.mem_cons_self ..),
      ih fun b hb => h b (List.mem_cons_of_mem a hb)]

/-- Going through a list on which nothing fails. -/
theorem mapM_eq_map {f : α → Except ε β} {g : α → β} {items : List α}
    (h : ∀ a ∈ items, f a = .ok (g a)) : items.mapM f = .ok (items.map g) := by
  induction items with
  | nil => rfl
  | cons a rest ih =>
    exact mapM_cons_ok (h a (List.mem_cons_self ..)) (ih fun b hb => h b (List.mem_cons_of_mem a hb))

/-- Where nothing fails, each result is that of an item, and each item has its result. -/
theorem mapM_ok {f : α → Except ε β} {items : List α} {results : List β}
    (h : items.mapM f = .ok results) :
    (∀ b ∈ results, ∃ a ∈ items, f a = .ok b) ∧ ∀ a ∈ items, ∃ b ∈ results, f a = .ok b := by
  induction items generalizing results with
  | nil =>
    cases h
    exact ⟨fun b hb => (nomatch hb), fun a ha => (nomatch ha)⟩
  | cons a rest ih =>
    rw [List.mapM_cons] at h
    cases hhead : f a with
    | error fault => rw [hhead] at h; exact nomatch h
    | ok b =>
      cases htail : rest.mapM f with
      | error fault => rw [hhead, htail] at h; exact nomatch h
      | ok bs =>
        rw [hhead, htail] at h
        cases h
        obtain ⟨hback, hforth⟩ := ih htail
        constructor
        · intro b' hb'
          rcases List.mem_cons.1 hb' with rfl | hb'
          · exact ⟨a, List.mem_cons_self .., hhead⟩
          · obtain ⟨a', ha', hf⟩ := hback b' hb'
            exact ⟨a', List.mem_cons_of_mem _ ha', hf⟩
        · intro a' ha'
          rcases List.mem_cons.1 ha' with rfl | ha'
          · exact ⟨b, List.mem_cons_self .., hhead⟩
          · obtain ⟨b', hb', hf⟩ := hforth a' ha'
            exact ⟨b', List.mem_cons_of_mem _ hb', hf⟩

/-- Nothing fails if no item does. -/
theorem exists_mapM_ok {f : α → Except ε β} {items : List α} (h : ∀ a ∈ items, ∃ b, f a = .ok b) :
    ∃ results, items.mapM f = .ok results := by
  induction items with
  | nil => exact ⟨[], rfl⟩
  | cons a rest ih =>
    obtain ⟨b, hb⟩ := h a (List.mem_cons_self ..)
    obtain ⟨bs, hbs⟩ := ih fun c hc => h c (List.mem_cons_of_mem a hc)
    exact ⟨b :: bs, mapM_cons_ok hb hbs⟩

/-- Going through a list fails with the first item that fails. -/
theorem mapM_eq_error {f : α → Except ε β} {items : List α} {fault : ε} :
    items.mapM f = .error fault ↔ ∃ front a back, items = front ++ a :: back ∧
      (∀ b ∈ front, ∃ result, f b = .ok result) ∧ f a = .error fault := by
  constructor
  · intro h
    induction items with
    | nil => exact nomatch h
    | cons a rest ih =>
      rw [List.mapM_cons] at h
      cases hhead : f a with
      | error cause =>
        rw [hhead] at h
        obtain rfl : cause = fault := Except.error.inj h
        exact ⟨[], a, rest, rfl, fun _ hnone => (nomatch hnone), hhead⟩
      | ok b =>
        cases htail : rest.mapM f with
        | error cause =>
          rw [hhead, htail] at h
          obtain rfl : cause = fault := Except.error.inj h
          obtain ⟨front, c, back, rfl, hfront, hc⟩ := ih htail
          exact ⟨a :: front, c, back, rfl, List.forall_mem_cons.2 ⟨⟨b, hhead⟩, hfront⟩, hc⟩
        | ok bs =>
          rw [hhead, htail] at h
          exact nomatch h
  · rintro ⟨front, a, back, rfl, hfront, ha⟩
    induction front with
    | nil =>
      rw [List.nil_append, List.mapM_cons, ha]
      rfl
    | cons b rest ih =>
      obtain ⟨⟨result, hb⟩, hrest⟩ := List.forall_mem_cons.1 hfront
      rw [List.cons_append, List.mapM_cons, hb, ih hrest]
      rfl

/-- Leaving out what came before leaves out nothing else. -/
theorem mem_foldl_unseen {α : Type} [BEq α] [LawfulBEq α] {items acc : List α} {a : α} :
    a ∈ items.foldl (fun seen b => if seen.contains b then seen else seen ++ [b]) acc ↔
      a ∈ acc ∨ a ∈ items := by
  induction items generalizing acc with
  | nil => simp
  | cons b rest ih =>
    rw [List.foldl_cons, ih, List.mem_cons]
    split
    next hseen =>
      have hb : b ∈ acc := List.contains_iff_mem.1 hseen
      constructor
      · exact Or.imp_right .inr
      · rintro (h | rfl | h)
        · exact .inl h
        · exact .inl hb
        · exact .inr h
    next => rw [List.mem_append, List.mem_singleton, or_assoc]

/-- A list of values of a certain form is the list of what they are made of. -/
theorem exists_map_eq {α β γ : Type} {f : α → β} {g : γ → β} {P : γ → Prop} {items : List α}
    (h : ∀ a ∈ items, ∃ c, f a = g c ∧ P c) :
    ∃ made : List γ, items.map f = made.map g ∧ ∀ c ∈ made, P c := by
  induction items with
  | nil => exact ⟨[], rfl, fun _ hc => nomatch hc⟩
  | cons a rest ih =>
    obtain ⟨c, hc, hP⟩ := h a (List.mem_cons_self ..)
    obtain ⟨made, hmade, hall⟩ := ih fun b hb => h b (List.mem_cons_of_mem a hb)
    refine ⟨c :: made, by rw [List.map_cons, List.map_cons, hc, hmade], fun d hd => ?_⟩
    rcases List.mem_cons.1 hd with rfl | hd
    · exact hP
    · exact hall d hd

/-- Items that change only while they do not pass a test make no difference to those that do. -/
theorem filter_map_eq {α : Type} {f : α → α} {p : α → Bool} {items : List α}
    (h : ∀ a ∈ items, f a = a ∨ p (f a) = false ∧ p a = false) :
    (items.map f).filter p = items.filter p := by
  induction items with
  | nil => rfl
  | cons a rest ih =>
    have hrest := ih fun b hb => h b (List.mem_cons_of_mem a hb)
    rw [List.map_cons]
    rcases h a (List.mem_cons_self ..) with hsame | ⟨hnew, hold⟩
    · rw [hsame, List.filter_cons, List.filter_cons, hrest]
    · rw [List.filter_cons_of_neg (by rw [hnew]; decide), List.filter_cons_of_neg (by rw [hold]; decide),
        hrest]

/-- Lists that are the same under two maps correspond item by item. -/
theorem forall₂_of_map_eq {α β γ : Type} {f : α → γ} {g : β → γ} {as : List α} {bs : List β}
    (h : as.map f = bs.map g) : List.Forall₂ (fun a b => a ∈ as ∧ b ∈ bs ∧ f a = g b) as bs := by
  induction as generalizing bs with
  | nil =>
    obtain rfl := List.map_eq_nil_iff.1 h.symm
    exact .nil
  | cons a as ih =>
    obtain ⟨b, bs, rfl, hhead, htail⟩ := List.map_eq_cons_iff.1 h.symm
    refine .cons ⟨List.mem_cons_self .., List.mem_cons_self .., hhead.symm⟩ ?_
    exact (ih htail.symm).imp fun _ _ ⟨ha, hb, hsame⟩ =>
      ⟨List.mem_cons_of_mem _ ha, List.mem_cons_of_mem _ hb, hsame⟩

/-- Sorting puts items in order, and leaves those that are not told apart in the order in which they
stood. -/
theorem pairwise_mergeSort_stable {α : Type} {le : α → α → Bool} {r : α → α → Prop} {items : List α}
    (htrans : ∀ a b c, le a b = true → le b c = true → le a c = true)
    (htotal : ∀ a b, (le a b || le b a) = true) (h : items.Pairwise r) :
    (items.mergeSort le).Pairwise fun a b => le a b = true ∧ (le b a = true → r a b) := by
  -- items are told apart by their places, and sorted with them
  have hperm : (items.zipIdx.mergeSort (List.zipIdxLE le)).Perm items.zipIdx := List.mergeSort_perm ..
  have hsorted := List.pairwise_mergeSort (List.zipIdxLE_trans htrans) (List.zipIdxLE_total htotal)
    items.zipIdx
  have hplaces : (items.zipIdx.mergeSort (List.zipIdxLE le)).Pairwise fun x y => x.2 ≠ y.2 := by
    refine List.pairwise_map.1 ((hperm.map _).nodup_iff.2 ?_)
    rw [List.zipIdx_map_snd]
    exact List.nodup_range'
  rw [← List.mergeSort_zipIdx, List.pairwise_map]
  refine (hsorted.and hplaces).imp_of_mem ?_
  rintro ⟨a, i⟩ ⟨b, j⟩ ha hb ⟨hle, hne⟩
  obtain ⟨hi, (ha : items[i] = a)⟩ :=
    List.getElem?_eq_some_iff.1 (List.mem_zipIdx_iff_getElem?.1 (hperm.mem_iff.1 ha))
  obtain ⟨hj, (hb : items[j] = b)⟩ :=
    List.getElem?_eq_some_iff.1 (List.mem_zipIdx_iff_getElem?.1 (hperm.mem_iff.1 hb))
  simp only [List.zipIdxLE] at hle
  split at hle
  next hab =>
    refine ⟨hab, fun hba => ?_⟩
    rw [if_pos hba] at hle
    have hlt : i < j := Nat.lt_of_le_of_ne (of_decide_eq_true hle) hne
    exact ha ▸ hb ▸ List.pairwise_iff_getElem.1 h i j hi hj hlt
  next => exact nomatch hle

end SchoolCatalog
