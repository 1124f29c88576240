import Mathlib.Data.List.DropRight
import SchoolCatalog.Form.Draft

/-!
# Reading forms

What is known of a value that a reader of forms accepts. A text that has to be filled comes without blanks
at its ends, and is not empty; the drafts of schools and reviews have such texts, while a change takes a
text as it is given.

Results:
1. `map_ok`, `seq_ok`, `beside_map`, `beside_seq`: readers side by side.
2. `withDefault_ok`, `required_ok`, `maybe_ok`, `checking_ok`, `choice_ok`: fields.
3. `tuition_courseDraft`, `rating_reviewDraft`, `role_of_read`: numbers within bounds, and roles.
4. `tidy_of_filled`, `tidy_schoolDraft`, `tidy_reviewDraft`: texts that have to be filled.
-/

namespace SchoolCatalog

/-! ## Texts without blanks at their ends -/

namespace Text

/-- A text that is not empty and has no blank at either end. -/
def Tidy (s : String) : Prop := s ≠ "" ∧ trim s = s

instance (s : String) : Decidable (Tidy s) := inferInstanceAs (Decidable (_ ∧ _))

/-- Trimming once is enough. -/
theorem trimList_trimList (p : Char → Bool) (cs : List Char) :
    trimList p (trimList p cs) = trimList p cs := by
  have hfront : (trimList p cs).dropWhile p = trimList p cs := by
    rw [List.dropWhile_eq_self_iff]
    intro hlength
    -- what is left at the front was there before the end was trimmed
    have hstarts : trimList p cs <+: cs.dropWhile p := List.rdropWhile_prefix p _
    rw [hstarts.getElem hlength]
    exact List.dropWhile_eq_self_iff.1 (List.dropWhile_idempotent p _) _
  have hback : (trimList p cs).rdropWhile p = trimList p cs := List.rdropWhile_idempotent p _
  show ((trimList p cs).dropWhile p).rdropWhile p = _
  rw [hfront, hback]

theorem trim_trim (s : String) : trim (trim s) = trim s := by
  rw [trim, trim, trimBy, trimBy, String.toList_ofList, trimList_trimList]

end Text

/-- A wording that is tidy if it is a text. -/
def Wording.Tidy (w : Wording) : Prop := ∀ s, w = .proper s → Text.Tidy s

theorem Wording.tidy_proper {s : String} (h : Text.Tidy s) : (Wording.proper s).Tidy := by
  rintro _ ⟨⟩
  exact h

namespace Form

/-! ## Readers side by side -/

theorem pure_eq_ok {α : Type} {a b : α} (h : (pure a : Checked α) = .ok b) : a = b := by
  cases h
  rfl

theorem map_ok {α β : Type} {x : Checked α} {f : α → β} {b : β} (h : f <$> x = .ok b) :
    ∃ a, x = .ok a ∧ f a = b := by
  cases x with
  | bad issues => exact nomatch h
  | ok a =>
    cases h
    exact ⟨a, rfl, rfl⟩

theorem seq_ok {α β : Type} {f : Checked (α → β)} {x : Checked α} {b : β} (h : f <*> x = .ok b) :
    ∃ g a, f = .ok g ∧ x = .ok a ∧ g a = b := by
  cases f with
  | bad issues => cases x <;> exact nomatch h
  | ok g =>
    cases x with
    | bad issues => exact nomatch h
    | ok a =>
      cases h
      exact ⟨g, a, rfl, rfl, rfl⟩

theorem map_seq_ok {α α' β : Type} {x : Checked α} {y : Checked α'} {f : α → α' → β} {b : β}
    (h : f <$> x <*> y = .ok b) : ∃ a a', x = .ok a ∧ y = .ok a' ∧ f a a' = b := by
  obtain ⟨g, a', hg, hy, rfl⟩ := seq_ok h
  obtain ⟨a, hx, rfl⟩ := map_ok hg
  exact ⟨a, a', hx, hy, rfl⟩

/-- Two readings of one input: both succeed, with related values, or neither does. -/
inductive Beside {β γ : Type} (related : β → γ → Prop) : Checked β → Checked γ → Prop
  | ok {b : β} {c : γ} : related b c → Beside related (.ok b) (.ok c)
  | bad {issues others : List Issue} : Beside related (.bad issues) (.bad others)

theorem Beside.of_ok {β γ : Type} {related : β → γ → Prop} {b : β} {y : Checked γ}
    (h : Beside related (.ok b) y) : ∃ c, y = .ok c ∧ related b c := by
  cases h with
  | ok hrelated => exact ⟨_, rfl, hrelated⟩

theorem Beside.to_ok {β γ : Type} {related : β → γ → Prop} {x : Checked β} {c : γ}
    (h : Beside related x (.ok c)) : ∃ b, x = .ok b ∧ related b c := by
  cases h with
  | ok hrelated => exact ⟨_, rfl, hrelated⟩

/-- What is read from one part of the input. -/
theorem beside_map {α β γ : Type} {f : α → β} {g : α → γ} {related : β → γ → Prop}
    (h : ∀ a, related (f a) (g a)) (x : Checked α) : Beside related (f <$> x) (g <$> x) := by
  cases x with
  | ok a => exact .ok (h a)
  | bad issues => exact .bad

/-- What is read from two parts of the input. -/
theorem beside_seq {α α' β γ : Type} {f : α → α' → β} {g : α → α' → γ} {related : β → γ → Prop}
    (h : ∀ a a', related (f a a') (g a a')) (x : Checked α) (y : Checked α') :
    Beside related (f <$> x <*> y) (g <$> x <*> y) := by
  cases x with
  | ok a =>
    cases y with
    | ok a' => exact .ok (h a a')
    | bad issues => exact .bad
  | bad issues => cases y <;> exact .bad

/-! ## Fields -/

theorem under_ok {α : Type} {x : Checked α} {name : String} {a : α} (h : x.under name = .ok a) :
    x = .ok a := by
  cases x with
  | bad issues => exact nomatch h
  | ok b => exact h

theorem withDefault_ok {α : Type} {entries : Record} {name : String} {default a : α}
    {reader : Reader α} (h : withDefault entries name default reader = .ok a) :
    a = default ∨ ∃ d, reader d = .ok a := by
  unfold withDefault at h
  split at h
  next d _ => exact .inr ⟨d, under_ok h⟩
  next =>
    cases h
    exact .inl rfl

theorem choice_ok {choices : List String} {d : Datum} {s : String} (h : choice choices d = .ok s) :
    s ∈ choices := by
  unfold choice at h
  split at h
  next =>
    split at h
    next hmem =>
      cases h
      exact List.contains_iff_mem.1 hmem
    next => exact nomatch h
  next => exact nomatch h
  next => exact nomatch h

theorem required_ok {α : Type} {entries : Record} {name : String} {reader : Reader α} {a : α}
    (h : required entries name reader = .ok a) : ∃ d, reader d = .ok a := by
  unfold required at h
  split at h
  next d _ => exact ⟨d, under_ok h⟩
  next => exact nomatch h

theorem maybe_ok {α : Type} {entries : Record} {name : String} {reader : Reader α} {a : α}
    (h : maybe entries name reader = .ok (some a)) : ∃ d, reader d = .ok a := by
  rcases withDefault_ok h with hnone | ⟨d, hd⟩
  · exact nomatch hnone
  · refine ⟨d, ?_⟩
    unfold optional at hd
    split at hd
    · exact nomatch hd
    · cases hread : reader d with
      | bad issues => rw [hread] at hd; exact nomatch hd
      | ok b =>
        rw [hread] at hd
        cases hd
        rfl

theorem checking_ok {α : Type} {reader : Reader α} {test : α → Bool} {f : Fault} {d : Datum} {a : α}
    (h : checking reader test f d = .ok a) : reader d = .ok a ∧ test a = true := by
  unfold checking at h
  split at h
  next b hread =>
    split at h
    next htest =>
      cases h
      exact ⟨hread, htest⟩
    next => exact nomatch h
  next => exact nomatch h

/-! ## Numbers and roles -/

/-- What is no number is below every bound. -/
theorem isNaN_of_numberFrom {least : Int} {d : Datum} {x : Binary64} (h : numberFrom least d = .ok x) :
    x.isNaN = false := by
  obtain ⟨_, htest⟩ := checking_ok h
  cases x with
  | nan => exact nomatch htest
  | infinite s => rfl
  | finite s u => rfl

theorem bounds_of_readRating {d : Datum} {i : Int} (h : readRating d = .ok i) : 1 ≤ i ∧ i ≤ 10 := by
  obtain ⟨hleast, hmost⟩ := checking_ok h
  obtain ⟨_, hleast⟩ := checking_ok hleast
  exact ⟨of_decide_eq_true hleast, of_decide_eq_true hmost⟩

theorem tuition_courseDraft {entries : Record} {draft : CourseDraft}
    (h : CourseDraft.read entries = .ok draft) : draft.tuition.isNaN = false := by
  obtain ⟨_, scholarship, hpriced, _, rfl⟩ := seq_ok h
  obtain ⟨_, tuition, hnamed, htuition, rfl⟩ := seq_ok hpriced
  obtain ⟨_, weeks, hdescribed, _, rfl⟩ := seq_ok hnamed
  obtain ⟨title, description, _, _, rfl⟩ := map_seq_ok hdescribed
  obtain ⟨_, htuition⟩ := required_ok htuition
  exact isNaN_of_numberFrom htuition

theorem tuition_courseChange {entries : Record} {change : CourseChange}
    (h : CourseChange.read entries = .ok change) {tuition : Binary64}
    (hsome : change.tuition = some tuition) : tuition.isNaN = false := by
  obtain ⟨_, scholarship, hpriced, _, rfl⟩ := seq_ok h
  obtain ⟨_, given, hnamed, hgiven, rfl⟩ := seq_ok hpriced
  obtain ⟨_, weeks, hdescribed, _, rfl⟩ := seq_ok hnamed
  obtain ⟨title, description, _, _, rfl⟩ := map_seq_ok hdescribed
  obtain rfl : given = some tuition := hsome
  obtain ⟨_, htuition⟩ := maybe_ok hgiven
  exact isNaN_of_numberFrom htuition

theorem rating_reviewDraft {entries : Record} {draft : ReviewDraft}
    (h : ReviewDraft.read entries = .ok draft) : 1 ≤ draft.rating ∧ draft.rating ≤ 10 := by
  obtain ⟨_, rating, hnamed, hrating, rfl⟩ := seq_ok h
  obtain ⟨title, text, _, _, rfl⟩ := map_seq_ok hnamed
  obtain ⟨_, hrating⟩ := required_ok hrating
  exact bounds_of_readRating hrating

theorem rating_reviewChange {entries : Record} {change : ReviewChange}
    (h : ReviewChange.read entries = .ok change) {rating : Int} (hsome : change.rating = some rating) :
    1 ≤ rating ∧ rating ≤ 10 := by
  obtain ⟨_, given, hnamed, hgiven, rfl⟩ := seq_ok h
  obtain ⟨title, text, _, _, rfl⟩ := map_seq_ok hnamed
  obtain rfl : given = some rating := hsome
  obtain ⟨_, hrating⟩ := maybe_ok hgiven
  exact bounds_of_readRating hrating

theorem role_accountChange {entries : Record} {change : AccountChange}
    (h : AccountChange.read entries = .ok change) {role : String} (hsome : change.role = some role) :
    role ∈ allRoles := by
  obtain ⟨_, password, hranked, _, rfl⟩ := seq_ok h
  obtain ⟨_, given, hnamed, hgiven, rfl⟩ := seq_ok hranked
  obtain ⟨name, email, _, _, rfl⟩ := map_seq_ok hnamed
  obtain rfl : given = some role := hsome
  obtain ⟨_, hrole⟩ := maybe_ok hgiven
  exact choice_ok hrole

/-- A draft that may give certain roles gives one of them. -/
theorem role_of_read {roles : List String} (huser : "user" ∈ roles) {entries : Record}
    {draft : AccountDraft} (h : AccountDraft.read roles entries = .ok draft) : draft.role ∈ roles := by
  obtain ⟨_, role, hfirst, hrole, rfl⟩ := seq_ok h
  obtain ⟨_, password, hfirst', _, rfl⟩ := seq_ok hfirst
  obtain ⟨name, email, _, _, rfl⟩ := map_seq_ok hfirst'
  rcases withDefault_ok hrole with rfl | ⟨d, hd⟩
  · exact huser
  · exact choice_ok hd

/-! ## Texts that have to be filled -/

theorem tidy_of_filled {reader : Reader String} {d : Datum} {s : String} (h : filled reader d = .ok s) :
    Text.Tidy s := by
  unfold filled at h
  split at h
  next t _ =>
    split at h
    next => exact nomatch h
    next hne =>
      cases h
      exact ⟨by simpa using hne, Text.trim_trim t⟩
  next => exact nomatch h

theorem tidy_of_filledWording {d : Datum} {w : Wording} (h : filledWording d = .ok w) : w.Tidy := by
  unfold filledWording at h
  split at h
  next given _ =>
    split at h
    next => exact nomatch h
    next hne =>
      cases h
      cases given with
      | proper t =>
        have hsome : Text.trim t ≠ "" := by simpa [Wording.trim, Wording.isEmpty] using hne
        exact Wording.tidy_proper ⟨hsome, Text.trim_trim t⟩
      | broken points =>
        rintro _ ⟨⟩
  next => exact nomatch h

theorem tidy_schoolDraft {entries : Record} {draft : SchoolDraft}
    (h : SchoolDraft.read entries = .ok draft) :
    Text.Tidy draft.name ∧ Text.Tidy draft.description ∧ draft.address.Tidy := by
  obtain ⟨_, address, hmailed, haddress, rfl⟩ := seq_ok h
  obtain ⟨_, email, hphoned, _, rfl⟩ := seq_ok hmailed
  obtain ⟨_, phone, hlinked, _, rfl⟩ := seq_ok hphoned
  obtain ⟨_, website, hnamed, _, rfl⟩ := seq_ok hlinked
  obtain ⟨name, description, hname, hdescription, rfl⟩ := map_seq_ok hnamed
  obtain ⟨_, hname⟩ := required_ok hname
  obtain ⟨_, hdescription⟩ := required_ok hdescription
  obtain ⟨_, haddress⟩ := required_ok haddress
  exact ⟨tidy_of_filled hname, tidy_of_filled hdescription, tidy_of_filledWording haddress⟩

theorem tidy_reviewDraft {entries : Record} {draft : ReviewDraft}
    (h : ReviewDraft.read entries = .ok draft) : Text.Tidy draft.title ∧ draft.text.Tidy := by
  obtain ⟨_, rating, hnamed, _, rfl⟩ := seq_ok h
  obtain ⟨title, text, htitle, htext, rfl⟩ := map_seq_ok hnamed
  obtain ⟨_, htitle⟩ := required_ok htitle
  obtain ⟨_, htext⟩ := required_ok htext
  exact ⟨tidy_of_filled htitle, tidy_of_filledWording htext⟩

end Form
end SchoolCatalog
