import MusicProviders.Proofs.Text.BracketPieces
import Mathlib.Data.List.DropRight

/-! # Runs of blanks in titles

A title's name is written with its words joined by single spaces. This module follows
that normalisation character by character, so that it can be set beside the bracket scan
and beside the version-word test.

* `collapseFrom` — the text with every run of blanks written as one space.
* `joinWords_wordsChars` — the words joined by spaces are the collapsed text, trimmed.
* `isVersionText_collapseFrom` — collapsing keeps the alphanumeric words, so a text is
  version text exactly when its collapsed form is.
* `groupTexts_joinWords_wordsChars` — the bracket groups of the normalised text are the
  text's own groups, each collapsed.
* `joinWords_wordsChars_infix` — a group keeps its normalised form inside the normalised
  text around it.
-/

namespace MusicProviders

namespace Text

/-! ## Blank characters -/

/-- The code points `isBlank` accepts. -/
def blankCodes : List Nat :=
  [0x09, 0x0A, 0x0B, 0x0C, 0x0D, 0x20, 0x85, 0xA0, 0x1680, 0x2000, 0x2001, 0x2002, 0x2003,
    0x2004, 0x2005, 0x2006, 0x2007, 0x2008, 0x2009, 0x200A, 0x2028, 0x2029, 0x202F, 0x205F,
    0x3000]

theorem toNat_mem_blankCodes {c : Char} (blank : isBlank c = true) : c.toNat ∈ blankCodes := by
  simp only [isBlank, Bool.or_eq_true, Bool.and_eq_true, decide_eq_true_eq, beq_iff_eq] at blank
  simp only [blankCodes, List.mem_cons, List.not_mem_nil, or_false]
  omega

/-- A test that no blank code point passes fails on every blank. -/
theorem eq_false_of_isBlank {p : Char → Bool} (table : ∀ n ∈ blankCodes, p (Char.ofNat n) = false)
    {c : Char} (blank : isBlank c = true) : p c = false := by
  rw [← Char.ofNat_toNat c]
  exact table _ (toNat_mem_blankCodes blank)

/-- No blank is a letter or a digit, so blanks separate the words of a text. -/
theorem isAlphanumeric_eq_false_of_isBlank {c : Char} (blank : isBlank c = true) :
    isAlphanumeric c = false :=
  eq_false_of_isBlank (by decide +kernel) blank

/-- No blank is a bracket, so blanks never open or close a group. -/
theorem isBracket_eq_false_of_isBlank {c : Char} (blank : isBlank c = true) :
    isBracket c = false :=
  eq_false_of_isBlank (by decide +kernel) blank

theorem isBlank_space : isBlank ' ' = true := rfl

/-- Both brackets of a group are characters other than blanks. -/
theorem not_isBlank_of_closingBracket {o c : Char} (closes : closingBracket o = some c) :
    isBlank o = false ∧ isBlank c = false := by
  unfold closingBracket at closes
  split at closes
  · cases closes
    decide
  · cases closes
    decide
  · cases closes

/-! ## Trimming -/

theorem trimBlankChars_eq_rdropWhile (cs : List Char) :
    trimBlankChars cs = (dropBlank cs).rdropWhile isBlank :=
  rfl

/-- Dropping from the end of a concatenation: the second part goes first. -/
theorem rdropWhile_append {α : Type} (p : α → Bool) (a b : List α) :
    (a ++ b).rdropWhile p = if b.all p then a.rdropWhile p else a ++ b.rdropWhile p := by
  unfold List.rdropWhile
  rw [List.reverse_append, List.dropWhile_append]
  by_cases allP : b.all p = true
  · have gone : b.reverse.dropWhile p = [] :=
      List.dropWhile_eq_nil_iff.mpr (by simpa [List.all_eq_true] using allP)
    simp [allP, gone]
  · have kept : (b.reverse.dropWhile p).isEmpty = false := by
      rw [List.isEmpty_eq_false_iff, ne_eq, List.dropWhile_eq_nil_iff]
      simpa [List.all_eq_true] using allP
    simp [allP, kept]

theorem dropBlank_cons_of_isBlank {c : Char} (l : List Char) (blank : isBlank c = true) :
    dropBlank (c :: l) = dropBlank l := by
  simp [dropBlank, blank]

theorem dropBlank_cons_of_not_isBlank {c : Char} (l : List Char) (word : isBlank c = false) :
    dropBlank (c :: l) = c :: l := by
  simp [dropBlank, word]

theorem isBlank_eq_false_of_dropBlank_eq_cons {cs rest : List Char} {c : Char}
    (first : dropBlank cs = c :: rest) : isBlank c = false := by
  have head := List.head?_dropWhile_not isBlank cs
  simp only [dropBlank] at first
  rw [first] at head
  simpa using head

theorem trimBlankChars_append_blanks (cs : List Char) {trail : List Char}
    (blank : ∀ c ∈ trail, isBlank c = true) : trimBlankChars (cs ++ trail) = trimBlankChars cs := by
  have allBlank : trail.all isBlank = true := List.all_eq_true.mpr blank
  simp only [trimBlankChars_eq_rdropWhile, dropBlank, List.dropWhile_append]
  split
  · rename_i gone
    have trailGone : trail.dropWhile isBlank = [] := List.dropWhile_eq_nil_iff.mpr blank
    rw [List.isEmpty_iff.mp gone, trailGone]
  · rw [rdropWhile_append, if_pos allBlank]

/-- Every text is its trimmed form between two runs of blanks. -/
theorem eq_blanks_append_trimBlankChars (cs : List Char) :
    ∃ lead trail, (∀ c ∈ lead, isBlank c = true) ∧ (∀ c ∈ trail, isBlank c = true) ∧
      cs = lead ++ trimBlankChars cs ++ trail := by
  refine ⟨cs.takeWhile isBlank, (dropBlank cs).rtakeWhile isBlank,
    fun c mem => List.mem_takeWhile_imp mem, fun c mem => List.mem_rtakeWhile_imp mem, ?_⟩
  rw [trimBlankChars_eq_rdropWhile, List.append_assoc, List.rdropWhile_append_rtakeWhile,
    dropBlank, List.takeWhile_append_dropWhile]

theorem forall_isBlank_of_trimBlankChars_eq_nil {cs : List Char}
    (empty : trimBlankChars cs = []) : ∀ c ∈ cs, isBlank c = true := by
  rw [trimBlankChars_eq_rdropWhile, List.rdropWhile_eq_nil_iff] at empty
  have gone : cs.dropWhile isBlank = [] := by
    by_contra rest
    have head := List.head_dropWhile_not isBlank rest
    rw [empty _ (List.head_mem rest)] at head
    exact Bool.noConfusion head
  exact List.dropWhile_eq_nil_iff.mp gone

/-! ## Collapsing runs of blanks -/

/-- The text with every run of blanks written as one space. `afterBlank` says that the
character before it was a blank, so that a run continuing that one adds nothing. -/
def collapseFrom : Bool → List Char → List Char
  | _, [] => []
  | afterBlank, c :: rest =>
    if isBlank c then (if afterBlank then [] else [' ']) ++ collapseFrom true rest
    else c :: collapseFrom false rest

/-- Whether a text ends in a blank; `afterBlank` for the empty text. -/
def endsBlank : Bool → List Char → Bool
  | afterBlank, [] => afterBlank
  | _, c :: rest => endsBlank (isBlank c) rest

@[simp] theorem collapseFrom_nil (afterBlank : Bool) : collapseFrom afterBlank [] = [] := rfl

theorem collapseFrom_cons_of_isBlank (afterBlank : Bool) {c : Char} (rest : List Char)
    (blank : isBlank c = true) :
    collapseFrom afterBlank (c :: rest) =
      (if afterBlank then [] else [' ']) ++ collapseFrom true rest := by
  simp [collapseFrom, blank]

theorem collapseFrom_cons_of_not_isBlank (afterBlank : Bool) {c : Char} (rest : List Char)
    (word : isBlank c = false) : collapseFrom afterBlank (c :: rest) = c :: collapseFrom false rest := by
  simp [collapseFrom, word]

theorem collapseFrom_append (a b : List Char) :
    ∀ afterBlank, collapseFrom afterBlank (a ++ b) =
      collapseFrom afterBlank a ++ collapseFrom (endsBlank afterBlank a) b := by
  induction a with
  | nil => intro afterBlank; rfl
  | cons c a ih =>
    intro afterBlank
    cases blank : isBlank c
    · simp [collapseFrom, endsBlank, blank, ih]
    · simp [collapseFrom, endsBlank, blank, ih]

@[simp] theorem endsBlank_append_singleton (afterBlank : Bool) (a : List Char) (c : Char) :
    endsBlank afterBlank (a ++ [c]) = isBlank c := by
  induction a generalizing afterBlank with
  | nil => rfl
  | cons d a ih => exact ih _

theorem collapseFrom_singleton (afterBlank : Bool) (c : Char) :
    collapseFrom afterBlank [c] =
      if isBlank c then (if afterBlank then [] else [' ']) else [c] := by
  cases blank : isBlank c <;> simp [collapseFrom, blank]

/-- Text without blanks is written as it is. -/
theorem collapseFrom_of_not_isBlank {w : List Char} (word : ∀ c ∈ w, isBlank c = false) :
    ∀ afterBlank, collapseFrom afterBlank w = w := by
  induction w with
  | nil => intro afterBlank; rfl
  | cons c w ih =>
    intro afterBlank
    rw [collapseFrom_cons_of_not_isBlank _ _ (word c (by simp)),
      ih (fun d mem => word d (by simp [mem]))]

theorem endsBlank_of_isBlank {l : List Char} (blank : ∀ c ∈ l, isBlank c = true) :
    ∀ afterBlank, endsBlank afterBlank l = (afterBlank || !l.isEmpty) := by
  induction l with
  | nil => simp [endsBlank]
  | cons c l ih =>
    intro afterBlank
    simp [endsBlank, ih (fun d mem => blank d (by simp [mem])), blank c (by simp)]

/-- A run of blanks that continues one adds nothing. -/
theorem collapseFrom_true_of_isBlank {l : List Char} (blank : ∀ c ∈ l, isBlank c = true) :
    collapseFrom true l = [] := by
  induction l with
  | nil => rfl
  | cons c l ih =>
    rw [collapseFrom_cons_of_isBlank _ _ (blank c (by simp)),
      ih (fun d mem => blank d (by simp [mem]))]
    rfl

/-- A run of blanks is written with blanks only. -/
theorem isBlank_of_mem_collapseFrom {l : List Char} (blank : ∀ c ∈ l, isBlank c = true) :
    ∀ afterBlank, ∀ c ∈ collapseFrom afterBlank l, isBlank c = true := by
  induction l with
  | nil => simp
  | cons c l ih =>
    intro afterBlank d mem
    rw [collapseFrom_cons_of_isBlank _ _ (blank c (by simp))] at mem
    rcases List.mem_append.mp mem with space | later
    · cases afterBlank <;> simp at space
      rw [space]
      exact isBlank_space
    · exact ih (fun e mem => blank e (by simp [mem])) true d later

theorem collapseFrom_true_dropBlank (l : List Char) :
    collapseFrom true (dropBlank l) = collapseFrom true l := by
  induction l with
  | nil => rfl
  | cons c l ih =>
    cases blank : isBlank c
    · simp [dropBlank, blank]
    · rw [collapseFrom_cons_of_isBlank _ _ blank]
      simpa [dropBlank, blank] using ih

theorem dropBlank_collapseFrom (l : List Char) :
    ∀ afterBlank, dropBlank (collapseFrom afterBlank l) = collapseFrom true l := by
  induction l with
  | nil => intro afterBlank; rfl
  | cons c l ih =>
    intro afterBlank
    cases blank : isBlank c
    · simp [collapseFrom_cons_of_not_isBlank _ _ blank, dropBlank, blank]
    · rw [collapseFrom_cons_of_isBlank _ _ blank, collapseFrom_cons_of_isBlank _ _ blank]
      cases afterBlank
      · rw [if_neg Bool.false_ne_true, List.singleton_append,
          dropBlank_cons_of_isBlank _ isBlank_space]
        exact ih true
      · exact ih true

/-! ## Words joined by spaces -/

theorem joinWords_singleton (w : List Char) : splitTitle.joinWords [w] = w := by
  simp [splitTitle.joinWords]

theorem joinWords_cons_of_ne_nil (w : List Char) {ws : List (List Char)} (more : ws ≠ []) :
    splitTitle.joinWords (w :: ws) = w ++ ' ' :: splitTitle.joinWords ws := by
  simp [splitTitle.joinWords, List.intercalate_cons_of_ne_nil more]

theorem wordsChars_go_nil (fuel : Nat) : wordsChars.go fuel [] = [] := by
  cases fuel <;> rfl

theorem ne_nil_of_mem_wordsChars_go (fuel : Nat) :
    ∀ cs, ∀ w ∈ wordsChars.go fuel cs, w ≠ [] := by
  induction fuel with
  | zero => simp [wordsChars.go]
  | succ fuel ih =>
    intro cs w mem
    rw [wordsChars.go.eq_2] at mem
    split at mem
    · simp at mem
    · rename_i c rest first
      have word := isBlank_eq_false_of_dropBlank_eq_cons first
      simp only [nextWord, List.mem_cons] at mem
      rcases mem with here | later
      · simp [here, word]
      · exact ih _ w later

theorem joinWords_eq_nil {ws : List (List Char)} (nonempty : ∀ w ∈ ws, w ≠ []) :
    splitTitle.joinWords ws = [] ↔ ws = [] := by
  cases ws with
  | nil => simp [splitTitle.joinWords]
  | cons w ws =>
    simp only [reduceCtorEq, iff_false]
    cases ws with
    | nil => simpa [joinWords_singleton] using nonempty w (by simp)
    | cons v vs => simp [joinWords_cons_of_ne_nil]

/-- The first word of a text that starts with a character other than a blank: a run of
such characters, never empty, followed by nothing or by a blank. -/
theorem nextWord_eq {c : Char} {rest w r : List Char} (word : isBlank c = false)
    (split : nextWord (c :: rest) = (w, r)) :
    w ++ r = c :: rest ∧ (∀ d ∈ w, isBlank d = false) ∧ w ≠ [] ∧
      ∀ d r', r = d :: r' → isBlank d = true := by
  simp only [nextWord, Prod.mk.injEq] at split
  obtain ⟨rfl, rfl⟩ := split
  refine ⟨List.takeWhile_append_dropWhile, fun d mem => by simpa using List.mem_takeWhile_imp mem,
    by simp [word], fun d r' after => ?_⟩
  have head := List.head?_dropWhile_not (fun c => !isBlank c) (c :: rest)
  rw [after] at head
  simpa using head

/-- A word is written as it is, and the blank state after it is off. -/
theorem collapseFrom_word_append {w : List Char} (word : ∀ c ∈ w, isBlank c = false)
    (nonempty : w ≠ []) (afterBlank : Bool) (rest : List Char) :
    collapseFrom afterBlank (w ++ rest) = w ++ collapseFrom false rest := by
  obtain ⟨w', z, rfl⟩ := List.eq_nil_or_concat w |>.resolve_left nonempty
  rw [collapseFrom_append, collapseFrom_of_not_isBlank word, List.concat_eq_append,
    endsBlank_append_singleton, word z (by simp)]

theorem rdropWhile_isBlank_of_word {w : List Char} (word : ∀ c ∈ w, isBlank c = false) :
    w.rdropWhile isBlank = w :=
  List.rdropWhile_eq_self_iff.mpr fun nonempty => by simp [word _ (List.getLast_mem nonempty)]

/-- The words of a text joined by single spaces are the text with its runs of blanks
collapsed, without the blank it may end with. `wordsChars` reads one word per step, so the
induction follows it: a word, then the run of blanks after it. -/
theorem joinWords_wordsChars_go (fuel : Nat) :
    ∀ cs : List Char, cs.length ≤ fuel →
      splitTitle.joinWords (wordsChars.go fuel cs) = (collapseFrom true cs).rdropWhile isBlank := by
  induction fuel with
  | zero =>
    intro cs short
    rw [List.eq_nil_of_length_eq_zero (Nat.le_zero.mp short)]
    rfl
  | succ fuel ih =>
    intro cs short
    have shorter : (dropBlank cs).length ≤ cs.length := List.length_dropWhile_le _ _
    rw [wordsChars.go.eq_2, ← collapseFrom_true_dropBlank cs]
    cases first : dropBlank cs with
    | nil => rfl
    | cons c rest =>
      rw [first] at shorter
      dsimp only
      -- the first word `w` and the rest `r`, which is empty or starts with a blank
      rcases split : nextWord (c :: rest) with ⟨w, r⟩
      obtain ⟨spelled, inWord, nonempty, afterWord⟩ :=
        nextWord_eq (isBlank_eq_false_of_dropBlank_eq_cons first) split
      dsimp only
      have short' : r.length ≤ fuel := by
        have total := congrArg List.length spelled
        have wordLength := List.length_pos_iff.mpr nonempty
        simp only [List.length_append, List.length_cons] at total shorter
        omega
      have later := ih r short'
      rw [← spelled, collapseFrom_word_append inWord nonempty]
      cases r_first : r with
      | nil =>
        rw [wordsChars_go_nil, joinWords_singleton, collapseFrom_nil, List.append_nil,
          rdropWhile_isBlank_of_word inWord]
      | cons d r' =>
        have blank : isBlank d = true := afterWord d r' r_first
        rw [r_first, collapseFrom_cons_of_isBlank _ _ blank, if_pos rfl, List.nil_append]
          at later
        rw [collapseFrom_cons_of_isBlank _ _ blank, if_neg Bool.false_ne_true,
          rdropWhile_append]
        have words := ne_nil_of_mem_wordsChars_go fuel (d :: r')
        by_cases allBlank : (collapseFrom true r').all isBlank = true
        · -- only blanks follow the word: it is the last one
          have none : wordsChars.go fuel (d :: r') = [] := by
            rw [← joinWords_eq_nil words, later, List.rdropWhile_eq_nil_iff]
            exact List.all_eq_true.mp allBlank
          rw [if_pos (by simpa [isBlank_space] using allBlank), none, joinWords_singleton,
            rdropWhile_isBlank_of_word inWord]
        · -- another word follows, after one space
          have some : wordsChars.go fuel (d :: r') ≠ [] := by
            intro none
            rw [← joinWords_eq_nil words, later, List.rdropWhile_eq_nil_iff] at none
            exact allBlank (List.all_eq_true.mpr none)
          rw [if_neg (by simpa [isBlank_space] using allBlank), rdropWhile_append,
            if_neg allBlank, joinWords_cons_of_ne_nil w some, later, List.singleton_append]

theorem joinWords_wordsChars (cs : List Char) (afterBlank : Bool) :
    splitTitle.joinWords (wordsChars cs) = trimBlankChars (collapseFrom afterBlank cs) := by
  rw [trimBlankChars_eq_rdropWhile, dropBlank_collapseFrom]
  exact joinWords_wordsChars_go cs.length cs le_rfl

/-- Blanks around a text do not change its normalised form. -/
theorem joinWords_wordsChars_blanks {lead trail : List Char}
    (leadBlank : ∀ c ∈ lead, isBlank c = true) (trailBlank : ∀ c ∈ trail, isBlank c = true)
    (cs : List Char) :
    splitTitle.joinWords (wordsChars (lead ++ cs ++ trail)) =
      splitTitle.joinWords (wordsChars cs) := by
  rw [joinWords_wordsChars _ true, joinWords_wordsChars cs true, collapseFrom_append,
    collapseFrom_append, collapseFrom_true_of_isBlank leadBlank, endsBlank_of_isBlank leadBlank,
    Bool.true_or, List.nil_append,
    trimBlankChars_append_blanks _ (isBlank_of_mem_collapseFrom trailBlank _)]

theorem joinWords_wordsChars_trimBlankChars (cs : List Char) :
    splitTitle.joinWords (wordsChars (trimBlankChars cs)) = splitTitle.joinWords (wordsChars cs) := by
  obtain ⟨lead, trail, leadBlank, trailBlank, spelled⟩ := eq_blanks_append_trimBlankChars cs
  conv_rhs => rw [spelled]
  exact (joinWords_wordsChars_blanks leadBlank trailBlank _).symm

/-- Blanks around a title add no bracket group. -/
theorem groupTexts_trimBlankChars (cs : List Char) : groupTexts (trimBlankChars cs) = groupTexts cs := by
  obtain ⟨lead, trail, leadBlank, trailBlank, spelled⟩ := eq_blanks_append_trimBlankChars cs
  conv_rhs => rw [spelled]
  rw [groupTexts_append_inert _ _ (fun c mem => isBracket_eq_false_of_isBlank (trailBlank c mem)),
    groupTexts_inert_append _ _ (fun c mem => isBracket_eq_false_of_isBlank (leadBlank c mem))]

/-! ## Version words survive collapsing -/

theorem splitWhere_ne_nil (keep : Char → Bool) (l : List Char) : splitWhere keep l ≠ [] := by
  cases l with
  | nil => simp [splitWhere]
  | cons c l =>
    simp only [splitWhere]
    split
    · simp
    · split <;> simp

/-- A separator cuts the pieces of a text in two. -/
theorem splitWhere_append_cons {keep : Char → Bool} {c : Char} (sep : keep c = false)
    (u v : List Char) : splitWhere keep (u ++ c :: v) = splitWhere keep u ++ splitWhere keep v := by
  induction u with
  | nil =>
    obtain ⟨p, ps, pieces⟩ := List.exists_cons_of_ne_nil (splitWhere_ne_nil keep v)
    simp [splitWhere, pieces, sep]
  | cons d u ih =>
    obtain ⟨p, ps, pieces⟩ := List.exists_cons_of_ne_nil (splitWhere_ne_nil keep u)
    rw [List.cons_append, splitWhere, ih, pieces, splitWhere, pieces]
    cases keep d <;> simp

theorem isVersionText_nil : isVersionText [] = false := rfl

/-- Text on the two sides of a character that is no letter or digit is read apart. -/
theorem isVersionText_append_cons {c : Char} (sep : isAlphanumeric c = false) (u v : List Char) :
    isVersionText (u ++ c :: v) = (isVersionText u || isVersionText v) := by
  simp only [isVersionText, splitWhere_append_cons sep, List.any_append]

theorem isVersionText_eq_false_of_isBlank {l : List Char} (blank : ∀ c ∈ l, isBlank c = true) :
    isVersionText l = false := by
  induction l with
  | nil => rfl
  | cons c l ih =>
    have split := isVersionText_append_cons (isAlphanumeric_eq_false_of_isBlank (blank c (by simp)))
      [] l
    rw [List.nil_append] at split
    rw [split, isVersionText_nil, ih (fun d mem => blank d (by simp [mem]))]
    rfl

/-- Version text names a keyword, so it is never blank. -/
theorem trimBlankChars_ne_nil_of_isVersionText {s : List Char} (version : isVersionText s = true) :
    trimBlankChars s ≠ [] := fun empty => by
  rw [isVersionText_eq_false_of_isBlank (forall_isBlank_of_trimBlankChars_eq_nil empty)] at version
  exact Bool.noConfusion version

/-- Collapsing the blanks after a prefix keeps its version words. When a run of blanks is
continued (`afterBlank`), the prefix ends in a blank, so the run still separates words. -/
theorem isVersionText_append_collapseFrom (l : List Char) :
    ∀ (p : List Char) (afterBlank : Bool), (afterBlank = true → endsBlank true p = true) →
      isVersionText (p ++ collapseFrom afterBlank l) = isVersionText (p ++ l) := by
  induction l with
  | nil => simp
  | cons c l ih =>
    intro p afterBlank continued
    cases blank : isBlank c
    · rw [collapseFrom_cons_of_not_isBlank _ _ blank]
      simpa using ih (p ++ [c]) false (fun never => Bool.noConfusion never)
    · have sep := isAlphanumeric_eq_false_of_isBlank blank
      rw [collapseFrom_cons_of_isBlank _ _ blank, isVersionText_append_cons sep]
      cases afterBlank
      · -- one space is written for the run
        have rest := ih [] true (fun _ => rfl)
        simp only [List.nil_append] at rest
        rw [if_neg Bool.false_ne_true, List.singleton_append,
          isVersionText_append_cons (isAlphanumeric_eq_false_of_isBlank isBlank_space), rest]
      · -- the run goes on: nothing is written, and `p` already ends in a blank
        rw [if_pos rfl, List.nil_append, ih p true continued]
        rcases List.eq_nil_or_concat p with rfl | ⟨p', z, rfl⟩
        · simp [isVersionText_nil]
        · have zBlank : isBlank z = true := by
            simpa using continued rfl
          have zSep := isAlphanumeric_eq_false_of_isBlank zBlank
          rw [List.concat_eq_append, List.append_assoc, List.singleton_append,
            isVersionText_append_cons zSep, ← List.append_nil (p' ++ [z]), List.append_assoc,
            List.singleton_append, isVersionText_append_cons zSep, isVersionText_nil,
            Bool.or_false]

/-- A text is version text exactly when its collapsed form is. -/
theorem isVersionText_collapseFrom (afterBlank : Bool) (l : List Char) :
    isVersionText (collapseFrom afterBlank l) = isVersionText l := by
  simpa using isVersionText_append_collapseFrom l [] afterBlank (fun _ => rfl)

/-! ## Bracket groups survive collapsing -/

/-- Scanning the collapsed text reads the collapsed groups. Outside a group the blank state
is free; inside one it is whether the group's text so far ends in a blank. -/
theorem filterMap_inner_piecesFrom_collapseFrom (l : List Char) :
    (∀ afterBlank, (piecesFrom none (collapseFrom afterBlank l)).filterMap Piece.inner? =
        ((piecesFrom none l).filterMap Piece.inner?).map (collapseFrom false)) ∧
    (∀ o inner, (piecesFrom (some (o, collapseFrom false inner))
        (collapseFrom (endsBlank false inner) l)).filterMap Piece.inner? =
        ((piecesFrom (some (o, inner)) l).filterMap Piece.inner?).map (collapseFrom false)) := by
  induction l with
  | nil =>
    constructor
    · intro afterBlank
      rfl
    · intro o inner
      rfl
  | cons c l ih =>
    obtain ⟨outside, inside⟩ := ih
    cases blank : isBlank c
    · -- a character other than a blank is written as it is
      constructor
      · intro afterBlank
        rw [collapseFrom_cons_of_not_isBlank _ _ blank]
        by_cases opens : (closingBracket c).isSome
        · simp only [piecesFrom, opens, if_true]
          exact inside c []
        · simp only [piecesFrom, opens, Bool.false_eq_true, if_false, List.filterMap_cons,
            Piece.inner?]
          exact outside false
      · intro o inner
        rw [collapseFrom_cons_of_not_isBlank _ _ blank]
        by_cases closes : closingBracket o = some c
        · simp only [piecesFrom, closes, if_true, List.filterMap_cons, Piece.inner?,
            List.map_cons, outside false]
        · have step := inside o (inner ++ [c])
          rw [collapseFrom_append, collapseFrom_singleton, blank, endsBlank_append_singleton,
            blank] at step
          simpa only [piecesFrom, closes, Bool.false_eq_true, if_false] using step
    · -- a blank is no bracket: it only extends the text it stands in
      have inert := isBracket_eq_false_of_isBlank blank
      have spaceInert := isBracket_eq_false_of_isBlank isBlank_space
      constructor
      · intro afterBlank
        rw [collapseFrom_cons_of_isBlank _ _ blank]
        simp only [piecesFrom, closingBracket_of_not_isBracket inert, Option.isSome_none,
          Bool.false_eq_true, if_false, List.filterMap_cons, Piece.inner?]
        cases afterBlank
        · simp only [Bool.false_eq_true, if_false, List.singleton_append, piecesFrom,
            closingBracket_of_not_isBracket spaceInert, Option.isSome_none, List.filterMap_cons,
            Piece.inner?]
          exact outside true
        · exact outside true
      · intro o inner
        rw [collapseFrom_cons_of_isBlank _ _ blank]
        have step := inside o (inner ++ [c])
        rw [collapseFrom_append, collapseFrom_singleton, blank, endsBlank_append_singleton,
          blank, if_pos rfl] at step
        simp only [piecesFrom, closingBracket_ne_of_not_isBracket inert o, if_false]
        cases ends : endsBlank false inner
        · rw [ends, if_neg Bool.false_ne_true] at step
          rw [if_neg Bool.false_ne_true, List.singleton_append, piecesFrom,
            if_neg (closingBracket_ne_of_not_isBracket spaceInert o)]
          exact step
        · rw [ends, if_pos rfl, List.append_nil] at step
          rw [if_pos rfl, List.nil_append]
          exact step

theorem groupTexts_collapseFrom (afterBlank : Bool) (cs : List Char) :
    groupTexts (collapseFrom afterBlank cs) = (groupTexts cs).map (collapseFrom false) := by
  rw [groupTexts_eq_filterMap, groupTexts_eq_filterMap]
  exact (filterMap_inner_piecesFrom_collapseFrom cs).1 afterBlank

/-- The bracket groups of a normalised text are the text's groups, each collapsed. -/
theorem groupTexts_joinWords_wordsChars (cs : List Char) :
    groupTexts (splitTitle.joinWords (wordsChars cs)) = (groupTexts cs).map (collapseFrom false) := by
  obtain ⟨lead, trail, leadBlank, trailBlank, spelled⟩ :=
    eq_blanks_append_trimBlankChars (collapseFrom false cs)
  have groups := groupTexts_collapseFrom false cs
  rw [spelled, groupTexts_append_inert _ _ (fun c mem => isBracket_eq_false_of_isBlank (trailBlank c mem)),
    groupTexts_inert_append _ _ (fun c mem => isBracket_eq_false_of_isBlank (leadBlank c mem))]
    at groups
  rw [joinWords_wordsChars cs false, groups]

/-! ## A group inside the normalised text -/

/-- A stretch that starts and ends with a character other than a blank stays whole when the
text around it is trimmed. -/
theorem infix_trimBlankChars {o : Char} {g : List Char} (before after : List Char)
    (first : isBlank o = false) (last : (o :: g).rdropWhile isBlank = o :: g) :
    o :: g <:+: trimBlankChars (before ++ (o :: g ++ after)) := by
  have notAll : (o :: g ++ after).all isBlank = false := by simp [first]
  obtain ⟨before', dropped⟩ : ∃ before', dropBlank (before ++ (o :: g ++ after)) =
      before' ++ (o :: g ++ after) := by
    simp only [dropBlank, List.dropWhile_append]
    split
    · exact ⟨[], by simp [first]⟩
    · exact ⟨_, rfl⟩
  obtain ⟨after', kept⟩ : ∃ after', (o :: g ++ after).rdropWhile isBlank = o :: g ++ after' := by
    rw [rdropWhile_append]
    split
    · exact ⟨[], by rw [last, List.append_nil]⟩
    · exact ⟨_, rfl⟩
  rw [trimBlankChars_eq_rdropWhile, dropped, rdropWhile_append, notAll, if_neg Bool.false_ne_true,
    kept]
  exact ⟨before', after', by simp⟩

/-- A group keeps its normalised form inside the normalised text around it. -/
theorem joinWords_wordsChars_infix (before after inner : List Char) {o c : Char}
    (opening : isBlank o = false) (closing : isBlank c = false) :
    splitTitle.joinWords (wordsChars (o :: (inner ++ [c]))) <:+:
      splitTitle.joinWords (wordsChars (before ++ o :: (inner ++ c :: after))) := by
  set group := collapseFrom false (o :: (inner ++ [c])) with group_eq
  have collapsed : ∀ afterBlank, collapseFrom afterBlank (o :: (inner ++ [c])) = group := by
    intro afterBlank
    rw [group_eq, collapseFrom_cons_of_not_isBlank _ _ opening,
      collapseFrom_cons_of_not_isBlank _ _ opening]
  have ends : ∀ afterBlank, endsBlank afterBlank (o :: (inner ++ [c])) = false := by
    intro afterBlank
    rw [← List.cons_append, endsBlank_append_singleton, closing]
  -- the collapsed group starts with `o` and ends with `c`
  obtain ⟨g, shape⟩ : ∃ g, group = o :: g := ⟨_, collapseFrom_cons_of_not_isBlank _ _ opening⟩
  have last : group.rdropWhile isBlank = group := by
    have closed : group = collapseFrom false (o :: inner) ++ [c] := by
      rw [group_eq, ← List.cons_append, collapseFrom_append, collapseFrom_singleton, closing,
        if_neg Bool.false_ne_true]
    rw [closed]
    exact List.rdropWhile_concat_neg isBlank _ c (by simp [closing])
  have whole : splitTitle.joinWords (wordsChars (o :: (inner ++ [c]))) = group := by
    rw [joinWords_wordsChars _ false, trimBlankChars_eq_rdropWhile, ← group_eq, shape,
      dropBlank_cons_of_not_isBlank _ opening, ← shape, last]
  have around : collapseFrom false (before ++ o :: (inner ++ c :: after)) =
      collapseFrom false before ++ (group ++ collapseFrom false after) := by
    rw [show o :: (inner ++ c :: after) = o :: (inner ++ [c]) ++ after by simp,
      collapseFrom_append, collapseFrom_append, ends, collapsed]
  rw [whole, joinWords_wordsChars _ false, around, shape]
  rw [shape] at last
  exact infix_trimBlankChars _ _ opening last

end Text

end MusicProviders
