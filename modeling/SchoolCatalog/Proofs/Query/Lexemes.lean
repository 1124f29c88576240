import SchoolCatalog.Text.Blank

/-!
# Lexemes of a statement

What a text of a statement is made of: names in quotation marks, words and single marks. The scan goes
from character to character. It never looks back over a blank that stands outside of a name, so a text
that leaves no name open can be told from one that follows it with a blank in front
(`Lexeme.ofText_append`): what a part of a statement means does not depend on the parts around it.

Question marks outside of names are placeholders. Every word that is neither a number nor one of the
keywords of a clause counts as an identifier, as every name does.
-/

namespace SchoolCatalog

/-- A piece of the text of a statement. -/
inductive Lexeme where
  | name (text : String)
  | word (text : String)
  | mark (ch : Char)
  deriving DecidableEq

namespace Lexeme

/-- What a scan is in the middle of, with the characters that are read so far. A name ends with a
quotation mark that no other follows. -/
inductive Scan where
  | between
  | word (read : List Char)
  | name (read : List Char)
  | quoted (read : List Char)

/-- Letters, digits, the low line, the dollar sign and all that is not in ASCII. -/
def isWordChar (ch : Char) : Bool := ch.isAlphanum || ch == '_' || ch == '$' || 0x80 ≤ ch.toNat

namespace Scan

/-- What the end of a text completes. -/
def pending : Scan → List Lexeme
  | between => []
  | word read => [.word (String.ofList read)]
  | name read => [.name (String.ofList read)]
  | quoted read => [.name (String.ofList read)]

/-- Whether a name is open. -/
def isOpen : Scan → Bool
  | name _ => true
  | _ => false

/-- What a character begins, and what it completes by itself. -/
def start (ch : Char) : List Lexeme × Scan :=
  if Text.isAsciiSpace ch then ([], between)
  else if ch = '"' then ([], name [])
  else if isWordChar ch then ([], word [ch])
  else ([.mark ch], between)

def step (s : Scan) (ch : Char) : List Lexeme × Scan :=
  match s with
  | between => start ch
  | word read =>
    if isWordChar ch then ([], word (read ++ [ch])) else (s.pending ++ (start ch).1, (start ch).2)
  | name read => if ch = '"' then ([], quoted read) else ([], name (read ++ [ch]))
  | quoted read =>
    if ch = '"' then ([], name (read ++ ['"'])) else (s.pending ++ (start ch).1, (start ch).2)

/-- The lexemes that are complete at the end of a list of characters. -/
def run (s : Scan) : List Char → List Lexeme
  | [] => s.pending
  | ch :: rest => (s.step ch).1 ++ run (s.step ch).2 rest

/-- Where a scan is after a list of characters. -/
def after (s : Scan) (cs : List Char) : Scan := cs.foldl (fun s ch => (s.step ch).2) s

variable {s : Scan}

theorem step_space (h : s.isOpen = false) : s.step ' ' = (s.pending, between) := by
  cases s with
  | name read => exact nomatch h
  | between => rfl
  | word read | quoted read => exact congrArg (·, between) (List.append_nil _)

/-- A blank ends what stands before it, unless that is a name. -/
theorem run_append {cs : List Char} (h : (s.after cs).isOpen = false) (rest : List Char) :
    s.run (cs ++ ' ' :: rest) = s.run cs ++ between.run rest := by
  induction cs generalizing s with
  | nil =>
    have hstep : s.step ' ' = (s.pending, between) := step_space h
    show (s.step ' ').1 ++ (s.step ' ').2.run rest = s.pending ++ between.run rest
    rw [hstep]
  | cons ch cs ih => rw [List.cons_append, run, run, ih h, List.append_assoc]

theorem after_append {cs : List Char} (h : (s.after cs).isOpen = false) (rest : List Char) :
    s.after (cs ++ ' ' :: rest) = between.after rest := by
  rw [after, List.foldl_append, List.foldl_cons]
  show ((s.after cs).step ' ').2.after rest = _
  rw [step_space h]

/-- A name is read to the quotation mark at its end. -/
theorem run_name {cs : List Char} (h : '"' ∉ cs) (read rest : List Char) :
    (name read).run (cs ++ '"' :: rest) = (quoted (read ++ cs)).run rest := by
  induction cs generalizing read with
  | nil => rw [List.nil_append, List.append_nil, run, step, if_pos rfl, List.nil_append]
  | cons ch cs ih =>
    rw [List.mem_cons, not_or] at h
    rw [List.cons_append, run, step, if_neg (Ne.symm h.1), List.nil_append, ih h.2, List.append_assoc]
    rfl

theorem after_name {cs : List Char} (h : '"' ∉ cs) (read rest : List Char) :
    (name read).after (cs ++ '"' :: rest) = (quoted (read ++ cs)).after rest := by
  induction cs generalizing read with
  | nil => rw [List.append_nil]; rfl
  | cons ch cs ih =>
    rw [List.mem_cons, not_or] at h
    have hnext : ((name read).step ch).2 = name (read ++ [ch]) := by rw [step, if_neg (Ne.symm h.1)]
    show (((name read).step ch).2).after (cs ++ '"' :: rest) = _
    rw [hnext, ih h.2, List.append_assoc]
    rfl

end Scan

/-- The lexemes of a text. -/
def ofText (text : String) : List Lexeme := Scan.between.run text.toList

/-- A text that leaves no name open. -/
def Whole (text : String) : Prop := (Scan.between.after text.toList).isOpen = false

instance (text : String) : Decidable (Whole text) := inferInstanceAs (Decidable (_ = _))

/-- A text that begins with a blank, if it is not empty. -/
def Apart (text : String) : Prop := text = "" ∨ ∃ rest, text = " " ++ rest

variable {front text : String}

theorem toList_spaced (text : String) : (" " ++ text).toList = ' ' :: text.toList := by
  rw [String.toList_append]
  rfl

theorem Apart.append (h : Apart front) (htext : Apart text) : Apart (front ++ text) := by
  rcases h with rfl | ⟨rest, rfl⟩
  · exact htext
  · exact .inr ⟨rest ++ text, String.append_assoc⟩

@[simp] theorem ofText_spaced (text : String) : ofText (" " ++ text) = ofText text := by
  rw [ofText, toList_spaced]
  rfl

/-- The lexemes of two texts that are apart are those of each. -/
theorem ofText_append (hfront : Whole front) (htext : Apart text) :
    ofText (front ++ text) = ofText front ++ ofText text := by
  rcases htext with rfl | ⟨rest, rfl⟩
  · rw [String.append_empty]
    exact (List.append_nil _).symm
  · rw [ofText_spaced, ofText, String.toList_append, toList_spaced]
    exact Scan.run_append hfront rest.toList

theorem Whole.append (hfront : Whole front) (htext : Whole text) (hapart : Apart text) :
    Whole (front ++ text) := by
  rcases hapart with rfl | ⟨rest, rfl⟩
  · rwa [String.append_empty]
  · rw [Whole, toList_spaced] at htext
    rw [Whole, String.toList_append, toList_spaced, Scan.after_append hfront]
    exact htext

/-- A name in quotation marks is one lexeme. -/
theorem ofText_name {text : String} (h : '"' ∉ text.toList) : ofText ("\"" ++ text ++ "\"") = [.name text] := by
  have hchars : ("\"" ++ text ++ "\"").toList = '"' :: (text.toList ++ ['"']) := by
    simp [String.toList_append]
  rw [ofText, hchars, Scan.run]
  show (Scan.name []).run _ = _
  rw [Scan.run_name h, List.nil_append, Scan.run, Scan.pending, String.ofList_toList]

theorem whole_name {text : String} (h : '"' ∉ text.toList) : Whole ("\"" ++ text ++ "\"") := by
  have hchars : ("\"" ++ text ++ "\"").toList = '"' :: (text.toList ++ ['"']) := by
    simp [String.toList_append]
  rw [Whole, hchars]
  show ((Scan.name []).after _).isOpen = false
  rw [Scan.after_name h]
  rfl

/-! ## Placeholders and identifiers -/

/-- The number of placeholders of a text. -/
def placeholders (text : String) : Nat := (ofText text).count (.mark '?')

/-- The words of a clause that are no identifiers. -/
def keywords : List String := ["WHERE", "AND", "IN", "IS", "NULL", "OR"]

/-- The identifier that a lexeme is. -/
def identifier? : Lexeme → Option String
  | name text => some text
  | word text =>
    if keywords.contains text || text.toList.head?.any Char.isDigit then none else some text
  | mark _ => none

/-- The identifiers of a text. -/
def identifiers (text : String) : List String := (ofText text).filterMap identifier?

theorem placeholders_append (hfront : Whole front) (htext : Apart text) :
    placeholders (front ++ text) = placeholders front + placeholders text := by
  rw [placeholders, ofText_append hfront htext, List.count_append]
  rfl

theorem identifiers_append (hfront : Whole front) (htext : Apart text) :
    identifiers (front ++ text) = identifiers front ++ identifiers text := by
  rw [identifiers, ofText_append hfront htext, List.filterMap_append]
  rfl

end Lexeme
end SchoolCatalog
