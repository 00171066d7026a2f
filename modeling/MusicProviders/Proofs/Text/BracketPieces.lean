import MusicProviders.Text.Title
import Mathlib.Data.List.Infix

/-! # Bracket groups as pieces of a title

`bracketGroups` scans a title with one group open at a time and reports every closed
group by its position. This module reads the same scan as a cut of the title into
pieces: characters outside every group, closed groups, and a group that is still open
when the title ends.

* `pieces` — the pieces of a title; they concatenate back to it (`flatMap_chars_pieces`).
* `bracketGroups_eq_spansWhere` — the positions `bracketGroups` reports are where the
  closed groups lie among the pieces, and `groupInner` reads back their inner text
  (`groupTexts_eq_filterMap`).
* `removeGroups_filter` — cutting out the groups whose inner text passes a test leaves
  the other pieces, in order.
* `Scanned` — the piece lists the scan produces. Scanning their text gives them back
  (`Scanned.pieces_flatMap_chars`), and leaving out pieces keeps the shape
  (`Scanned.filter`): a title with some groups cut out has exactly the remaining groups.
* `groupTexts_isPrefix_append` — the groups of a prefix of a title are a prefix of its groups;
  `groupTexts_append_inert` and `groupTexts_inert_append` — text without brackets at
  either end adds no group.
-/

namespace MusicProviders

namespace Text

/-- A title as the bracket scan cuts it. -/
inductive Piece where
  /-- A character outside every closed group. -/
  | plain (c : Char)
  /-- A closed group: its opening bracket, the characters inside and its closing bracket. -/
  | group (opening : Char) (inner : List Char) (closing : Char)
  /-- A group still open when the title ends: its opening bracket and what follows it. -/
  | unclosed (opening : Char) (rest : List Char)
deriving DecidableEq

namespace Piece

/-- The characters of a piece. -/
def chars : Piece → List Char
  | plain c => [c]
  | group o inner c => o :: inner ++ [c]
  | unclosed o rest => o :: rest

/-- The inner text of a closed group. -/
def inner? : Piece → Option (List Char)
  | plain _ => none
  | group _ inner _ => some inner
  | unclosed _ _ => none

/-- Whether a piece is a closed group whose inner text passes `q`. -/
def isGroupWith (q : List Char → Bool) : Piece → Bool
  | plain _ => false
  | group _ inner _ => q inner
  | unclosed _ _ => false

@[simp] theorem length_chars_group (o c : Char) (inner : List Char) :
    (group o inner c).chars.length = inner.length + 2 := by
  simp [chars]

theorem chars_group_append (o c : Char) (inner rest : List Char) :
    (group o inner c).chars ++ rest = o :: (inner ++ c :: rest) := by
  simp [chars]

/-- Where the closed groups among `ps` whose inner text passes `q` lie, as
`(start, stop)` pairs as `bracketGroups` reports them, when the text of `ps` starts at
position `start`. -/
def spansWhere (q : List Char → Bool) : Nat → List Piece → List (Nat × Nat)
  | _, [] => []
  | start, p :: ps =>
    (if p.isGroupWith q then [(start, start + p.chars.length)] else []) ++
      spansWhere q (start + p.chars.length) ps

end Piece

/-- The pieces of the rest of a title. `current` is the group being read, if any: its
opening bracket and the characters read inside it so far. -/
def piecesFrom : Option (Char × List Char) → List Char → List Piece
  | none, [] => []
  | some (o, inner), [] => [.unclosed o inner]
  | none, c :: rest =>
    if (closingBracket c).isSome then piecesFrom (some (c, [])) rest
    else .plain c :: piecesFrom none rest
  | some (o, inner), c :: rest =>
    if closingBracket o = some c then .group o inner c :: piecesFrom none rest
    else piecesFrom (some (o, inner ++ [c])) rest

/-- The pieces of a title. -/
def pieces (title : List Char) : List Piece := piecesFrom none title

/-- The inner texts of a title's bracket groups, left to right. -/
def groupTexts (title : List Char) : List (List Char) :=
  (bracketGroups title).map (groupInner title)

/-- The characters of the group being read. -/
def openChars : Option (Char × List Char) → List Char
  | none => []
  | some (o, inner) => o :: inner

/-! ## The pieces spell the title -/

theorem flatMap_chars_piecesFrom (rest : List Char) :
    ∀ current, (piecesFrom current rest).flatMap Piece.chars = openChars current ++ rest := by
  induction rest with
  | nil => rintro (_ | ⟨o, inner⟩) <;> simp [piecesFrom, openChars, Piece.chars]
  | cons c rest ih =>
    rintro (_ | ⟨o, inner⟩)
    · by_cases opens : (closingBracket c).isSome
      · simp [piecesFrom, opens, ih, openChars]
      · simp [piecesFrom, opens, ih, openChars, Piece.chars]
    · by_cases closes : closingBracket o = some c
      · simp [piecesFrom, closes, ih, openChars, Piece.chars]
      · simp [piecesFrom, closes, ih, openChars]

@[simp] theorem flatMap_chars_pieces (title : List Char) :
    (pieces title).flatMap Piece.chars = title := by
  simp [pieces, flatMap_chars_piecesFrom, openChars]

/-! ## Positions of the groups -/

/-- The scan by positions and the scan by pieces agree: from outside every group, and
from inside a group that opened at `start` and has read `inner` since. -/
theorem bracketGroupsFrom_eq_spansWhere (rest : List Char) :
    ∀ i, bracketGroupsFrom i none rest =
        Piece.spansWhere (fun _ => true) i (piecesFrom none rest) ∧
      ∀ start o close inner, closingBracket o = some close → start + 1 + inner.length = i →
        bracketGroupsFrom i (some (start, close)) rest =
          Piece.spansWhere (fun _ => true) start (piecesFrom (some (o, inner)) rest) := by
  induction rest with
  | nil =>
    intro i
    simp [bracketGroupsFrom, piecesFrom, Piece.spansWhere, Piece.isGroupWith]
  | cons c rest ih =>
    intro i
    constructor
    · cases opens : closingBracket c with
      | none =>
        simp [bracketGroupsFrom, piecesFrom, opens, Piece.spansWhere, Piece.isGroupWith,
          Piece.chars, (ih (i + 1)).1]
      | some close =>
        simp only [bracketGroupsFrom, piecesFrom, opens, Option.isSome_some, if_true]
        exact (ih (i + 1)).2 i c close [] opens (by simp)
    · intro start o close inner closes position
      by_cases atClose : c = close
      · subst atClose
        have stop : start + (o :: inner ++ [c]).length = i + 1 := by simp; omega
        simp only [bracketGroupsFrom, if_true, piecesFrom, closes, Piece.spansWhere,
          Piece.isGroupWith, Piece.chars, stop, (ih (i + 1)).1]
        rfl
      · have notClosing : closingBracket o ≠ some c := by
          rw [closes]
          exact fun same => atClose (Option.some.inj same).symm
        simp only [bracketGroupsFrom, piecesFrom, atClose, notClosing, if_false]
        exact (ih (i + 1)).2 start o close (inner ++ [c]) closes (by simp; omega)

theorem bracketGroups_eq_spansWhere (title : List Char) :
    bracketGroups title = Piece.spansWhere (fun _ => true) 0 (pieces title) :=
  ((bracketGroupsFrom_eq_spansWhere title) 0).1

theorem spansWhere_start_le (q : List Char → Bool) (ps : List Piece) :
    ∀ start, ∀ g ∈ Piece.spansWhere q start ps, start ≤ g.1 := by
  induction ps with
  | nil => simp [Piece.spansWhere]
  | cons p ps ih =>
    intro start g mem
    simp only [Piece.spansWhere, List.mem_append] at mem
    rcases mem with here | later
    · split at here
      · rw [List.mem_singleton] at here
        rw [here]
      · simp at here
    · have := ih _ g later
      omega

/-- A reported span is the place of a closed group piece that passes `q`. -/
theorem exists_of_mem_spansWhere (q : List Char → Bool) (ps : List Piece) :
    ∀ start g, g ∈ Piece.spansWhere q start ps →
      ∃ before o inner c after, ps = before ++ .group o inner c :: after ∧ q inner = true ∧
        g = (start + (before.flatMap Piece.chars).length,
          start + (before.flatMap Piece.chars).length + (inner.length + 2)) := by
  induction ps with
  | nil => simp [Piece.spansWhere]
  | cons p ps ih =>
    intro start g mem
    simp only [Piece.spansWhere, List.mem_append] at mem
    rcases mem with here | later
    · cases p with
      | plain c | unclosed o rest => simp [Piece.isGroupWith] at here
      | group o inner c =>
        by_cases passes : q inner = true
        · simp only [Piece.isGroupWith, passes, if_true, List.mem_singleton] at here
          exact ⟨[], o, inner, c, ps, rfl, passes, by simp [here]⟩
        · simp [Piece.isGroupWith, passes] at here
    · obtain ⟨before, o, inner, c, after, split, passes, place⟩ := ih _ g later
      refine ⟨p :: before, o, inner, c, after, by simp [split], passes, ?_⟩
      simp only [List.flatMap_cons, List.length_append, place]
      ext <;> simp <;> omega

/-- A group read at `before.length` gives back its inner text. -/
theorem groupInner_group (before inner after : List Char) (o c : Char) :
    groupInner (before ++ o :: (inner ++ c :: after))
      (before.length, before.length + (inner.length + 2)) = inner := by
  simp only [groupInner]
  rw [List.drop_append, List.drop_eq_nil_of_le (by omega), List.nil_append,
    Nat.add_sub_cancel_left, List.drop_one, List.tail_cons,
    show before.length + (inner.length + 2) - 1 - (before.length + 1) = inner.length by omega]
  exact List.take_left' rfl

theorem filter_spansWhere (q : List Char → Bool) (ps : List Piece) :
    ∀ before : List Char,
      (Piece.spansWhere (fun _ => true) before.length ps).filter
          (fun g => q (groupInner (before ++ ps.flatMap Piece.chars) g)) =
        Piece.spansWhere q before.length ps := by
  induction ps with
  | nil => simp [Piece.spansWhere]
  | cons p ps ih =>
    intro before
    have later := ih (before ++ p.chars)
    simp only [List.length_append, List.append_assoc] at later
    rw [Piece.spansWhere, Piece.spansWhere, List.filter_append, List.flatMap_cons, later]
    congr 1
    cases p with
    | plain c | unclosed o rest => simp [Piece.isGroupWith]
    | group o inner c =>
      rw [Piece.length_chars_group, Piece.chars_group_append]
      simp only [Piece.isGroupWith, if_true, List.filter_cons, List.filter_nil,
        groupInner_group]
      rfl

theorem map_spansWhere_groupInner (ps : List Piece) :
    ∀ before : List Char,
      (Piece.spansWhere (fun _ => true) before.length ps).map
          (groupInner (before ++ ps.flatMap Piece.chars)) =
        ps.filterMap Piece.inner? := by
  induction ps with
  | nil => simp [Piece.spansWhere]
  | cons p ps ih =>
    intro before
    have later := ih (before ++ p.chars)
    simp only [List.length_append, List.append_assoc] at later
    rw [Piece.spansWhere, List.map_append, List.flatMap_cons, later, List.filterMap_cons]
    cases p with
    | plain c | unclosed o rest => simp [Piece.isGroupWith, Piece.inner?]
    | group o inner c =>
      rw [Piece.length_chars_group, Piece.chars_group_append]
      simp only [Piece.isGroupWith, if_true, List.map_cons, List.map_nil, groupInner_group,
        Piece.inner?, List.singleton_append]

/-- The inner texts of a title's groups are those of its closed group pieces. -/
theorem groupTexts_eq_filterMap (title : List Char) :
    groupTexts title = (pieces title).filterMap Piece.inner? := by
  have spelled := map_spansWhere_groupInner (pieces title) []
  simp only [List.length_nil, List.nil_append, flatMap_chars_pieces] at spelled
  rw [groupTexts, bracketGroups_eq_spansWhere, spelled]

/-! ## Cutting groups out -/

/-- The characters of `l`, read from position `start` on, that no group of `groups`
covers. `removeGroups` is the case `start = 0`. -/
def keepUncovered (groups : List (Nat × Nat)) (start : Nat) (l : List Char) : List Char :=
  ((List.range' start l.length).zip l).filterMap fun (i, c) =>
    if groups.any (fun g => g.1 ≤ i && i < g.2) then none else some c

theorem removeGroups_eq_keepUncovered (title : List Char) (groups : List (Nat × Nat)) :
    removeGroups title groups = keepUncovered groups 0 title := by
  rw [removeGroups, keepUncovered, List.range_eq_range']

theorem keepUncovered_cons (groups : List (Nat × Nat)) (start : Nat) (c : Char)
    (l : List Char) :
    keepUncovered groups start (c :: l) =
      (if groups.any (fun g => g.1 ≤ start && start < g.2) then [] else [c]) ++
        keepUncovered groups (start + 1) l := by
  simp only [keepUncovered, List.length_cons, List.range'_succ, List.zip_cons_cons,
    List.filterMap_cons]
  by_cases covered : groups.any (fun g => g.1 ≤ start && start < g.2) <;> simp [covered]

theorem keepUncovered_append (groups : List (Nat × Nat)) (a b : List Char) :
    ∀ start, keepUncovered groups start (a ++ b) =
      keepUncovered groups start a ++ keepUncovered groups (start + a.length) b := by
  induction a with
  | nil => simp [keepUncovered]
  | cons c a ih =>
    intro start
    rw [List.cons_append, keepUncovered_cons, keepUncovered_cons, ih, List.append_assoc]
    simp [Nat.add_assoc, Nat.add_comm 1]

theorem keepUncovered_of_uncovered (groups : List (Nat × Nat)) (l : List Char) :
    ∀ start, (∀ i, start ≤ i → i < start + l.length → ∀ g ∈ groups, ¬(g.1 ≤ i ∧ i < g.2)) →
      keepUncovered groups start l = l := by
  induction l with
  | nil => simp [keepUncovered]
  | cons c l ih =>
    intro start uncovered
    have here : groups.any (fun g => g.1 ≤ start && start < g.2) = false := by
      simpa using fun a b mem => uncovered start le_rfl (by simp) (a, b) mem
    rw [keepUncovered_cons, here, ih (start + 1)
      (fun i lo hi => uncovered i (by omega) (by simp at hi ⊢; omega))]
    rfl

theorem keepUncovered_of_covered (groups : List (Nat × Nat)) (l : List Char) :
    ∀ start, (∀ i, start ≤ i → i < start + l.length → ∃ g ∈ groups, g.1 ≤ i ∧ i < g.2) →
      keepUncovered groups start l = [] := by
  induction l with
  | nil => simp [keepUncovered]
  | cons c l ih =>
    intro start covered
    have here : groups.any (fun g => g.1 ≤ start && start < g.2) = true := by
      obtain ⟨g, mem, lo, hi⟩ := covered start le_rfl (by simp)
      simpa using ⟨g.1, g.2, mem, lo, hi⟩
    rw [keepUncovered_cons, here, ih (start + 1)
      (fun i lo hi => covered i (by omega) (by simp at hi ⊢; omega))]
    rfl

/-- Cutting out the spans of the groups that pass `q` leaves the other pieces. The
groups of `before` all end at `start`, so they cover none of the pieces. -/
theorem keepUncovered_spansWhere (q : List Char → Bool) (ps : List Piece) :
    ∀ start (before : List (Nat × Nat)), (∀ g ∈ before, g.2 ≤ start) →
      keepUncovered (before ++ Piece.spansWhere q start ps) start (ps.flatMap Piece.chars) =
        (ps.filter fun p => !p.isGroupWith q).flatMap Piece.chars := by
  induction ps with
  | nil => simp [keepUncovered]
  | cons p ps ih =>
    intro start before ended
    set here : List (Nat × Nat) :=
      if p.isGroupWith q then [(start, start + p.chars.length)] else [] with here_eq
    have later : ∀ g ∈ Piece.spansWhere q (start + p.chars.length) ps,
        start + p.chars.length ≤ g.1 :=
      spansWhere_start_le q ps _
    have groups : before ++ Piece.spansWhere q start (p :: ps) =
        (before ++ here) ++ Piece.spansWhere q (start + p.chars.length) ps := by
      simp [Piece.spansWhere, here_eq]
    have rest := ih (start + p.chars.length) (before ++ here) (by
      intro g mem
      rcases List.mem_append.mp mem with old | new
      · have := ended g old
        omega
      · rw [here_eq] at new
        split at new
        · simp at new
          rw [new]
        · simp at new)
    rw [groups, List.flatMap_cons, keepUncovered_append, rest, List.filter_cons]
    by_cases cut : p.isGroupWith q
    · have gone : keepUncovered ((before ++ here) ++
          Piece.spansWhere q (start + p.chars.length) ps) start p.chars = [] := by
        apply keepUncovered_of_covered
        intro i lo hi
        exact ⟨(start, start + p.chars.length), by simp [here_eq, cut], lo, hi⟩
      rw [gone]
      simp [cut]
    · have kept : keepUncovered ((before ++ here) ++
          Piece.spansWhere q (start + p.chars.length) ps) start p.chars = p.chars := by
        apply keepUncovered_of_uncovered
        intro i lo hi g mem within
        simp only [here_eq, cut, Bool.false_eq_true, if_false, List.append_nil,
          List.mem_append] at mem
        rcases mem with old | new
        · have := ended g old
          omega
        · have := later g new
          omega
      rw [kept]
      simp [cut]

/-- Cutting out the groups whose inner text passes `q` leaves the title's other pieces,
in order. -/
theorem removeGroups_filter (q : List Char → Bool) (title : List Char) :
    removeGroups title ((bracketGroups title).filter fun g => q (groupInner title g)) =
      ((pieces title).filter fun p => !p.isGroupWith q).flatMap Piece.chars := by
  have picked := filter_spansWhere q (pieces title) []
  simp only [List.length_nil, List.nil_append, flatMap_chars_pieces] at picked
  have cut := keepUncovered_spansWhere q (pieces title) 0 [] (by simp)
  rw [List.nil_append, flatMap_chars_pieces] at cut
  rw [removeGroups_eq_keepUncovered, bracketGroups_eq_spansWhere, picked, cut]

/-! ## Scanning pieces again -/

/-- The piece lists the scan produces: a plain character opens no group, a closed group
holds no closing bracket of its own, and a group left open comes last and never meets
its closing bracket. -/
inductive Scanned : List Piece → Prop where
  | nil : Scanned []
  | plain {c : Char} {ps : List Piece} (opensNone : closingBracket c = none)
      (tail : Scanned ps) : Scanned (.plain c :: ps)
  | group {o c : Char} {inner : List Char} {ps : List Piece}
      (closes : closingBracket o = some c) (unmatched : c ∉ inner) (tail : Scanned ps) :
      Scanned (.group o inner c :: ps)
  | unclosed {o c : Char} {rest : List Char} (closes : closingBracket o = some c)
      (unmatched : c ∉ rest) : Scanned [.unclosed o rest]

theorem scanned_piecesFrom (rest : List Char) :
    ∀ current : Option (Char × List Char),
      (∀ o inner, current = some (o, inner) → ∃ c, closingBracket o = some c ∧ c ∉ inner) →
      Scanned (piecesFrom current rest) := by
  induction rest with
  | nil =>
    rintro (_ | ⟨o, inner⟩) waiting
    · exact .nil
    · obtain ⟨c, closes, unmatched⟩ := waiting o inner rfl
      exact .unclosed closes unmatched
  | cons c rest ih =>
    rintro (_ | ⟨o, inner⟩) waiting
    · by_cases opens : (closingBracket c).isSome
      · simp only [piecesFrom, opens, if_true]
        apply ih
        rintro o inner ⟨⟩
        obtain ⟨close, closes⟩ := Option.isSome_iff_exists.mp opens
        exact ⟨close, closes, List.not_mem_nil⟩
      · simp only [piecesFrom, opens, Bool.false_eq_true, if_false]
        exact .plain (by simpa using opens) (ih none (by simp))
    · obtain ⟨close, closes, unmatched⟩ := waiting o inner rfl
      by_cases atClose : closingBracket o = some c
      · simp only [piecesFrom, atClose, if_true]
        rw [closes, Option.some.injEq] at atClose
        subst atClose
        exact .group closes unmatched (ih none (by simp))
      · simp only [piecesFrom, atClose, if_false]
        apply ih
        rintro o' inner' ⟨⟩
        refine ⟨close, closes, ?_⟩
        simp only [List.mem_append, List.mem_singleton, not_or]
        exact ⟨unmatched, fun same => atClose (same ▸ closes)⟩

theorem scanned_pieces (title : List Char) : Scanned (pieces title) :=
  scanned_piecesFrom title none (by simp)

/-- Inside a group, characters other than its closing bracket are read into it. -/
theorem piecesFrom_of_unmatched {o c : Char} (closes : closingBracket o = some c)
    (inner : List Char) :
    ∀ seen rest, c ∉ inner →
      piecesFrom (some (o, seen)) (inner ++ rest) = piecesFrom (some (o, seen ++ inner)) rest := by
  induction inner with
  | nil => simp
  | cons d inner ih =>
    intro seen rest unmatched
    have notClosing : closingBracket o ≠ some d := by
      rw [closes]
      intro same
      exact unmatched (by simp [Option.some.inj same])
    simp only [List.cons_append, piecesFrom, notClosing, if_false]
    rw [ih (seen ++ [d]) rest (fun mem => unmatched (List.mem_cons_of_mem d mem))]
    simp

/-- Every closed group of a scan ends with the closing bracket of its opening one. -/
theorem Scanned.closes_of_mem {ps : List Piece} (scanned : Scanned ps) {o c : Char}
    {inner : List Char} (mem : .group o inner c ∈ ps) : closingBracket o = some c := by
  induction scanned with
  | nil => simp at mem
  | plain _ _ ih => exact ih (by simpa using mem)
  | group closes _ _ ih =>
    rcases List.mem_cons.mp mem with same | later
    · cases same
      exact closes
    · exact ih later
  | unclosed _ _ => simp at mem

/-- Scanning the text of scanned pieces gives them back. -/
theorem Scanned.pieces_flatMap_chars {ps : List Piece} (scanned : Scanned ps) :
    pieces (ps.flatMap Piece.chars) = ps := by
  induction scanned with
  | nil => rfl
  | plain opensNone _ ih =>
    simp only [pieces] at ih ⊢
    simp [Piece.chars, piecesFrom, opensNone, ih]
  | @group o c inner ps closes unmatched _ ih =>
    simp only [pieces] at ih ⊢
    simp only [List.flatMap_cons, Piece.chars_group_append, piecesFrom, closes,
      Option.isSome_some, if_true]
    rw [piecesFrom_of_unmatched closes inner [] _ unmatched]
    simp only [List.nil_append, piecesFrom, closes, if_true, ih]
  | @unclosed o c rest closes unmatched =>
    simp only [pieces, List.flatMap_cons, List.flatMap_nil, List.append_nil, Piece.chars,
      piecesFrom, closes, Option.isSome_some, if_true]
    rw [← List.append_nil rest, piecesFrom_of_unmatched closes rest [] [] unmatched]
    simp [piecesFrom]

/-- Leaving pieces out keeps the shape of a scan. -/
theorem Scanned.filter {ps : List Piece} (scanned : Scanned ps) (keep : Piece → Bool) :
    Scanned (ps.filter keep) := by
  induction scanned with
  | nil => exact .nil
  | plain opensNone _ ih =>
    rw [List.filter_cons]
    split
    · exact .plain opensNone ih
    · exact ih
  | group closes unmatched _ ih =>
    rw [List.filter_cons]
    split
    · exact .group closes unmatched ih
    · exact ih
  | unclosed closes unmatched =>
    rw [List.filter_cons]
    split
    · exact .unclosed closes unmatched
    · exact .nil

/-- The title with some of its pieces left out has exactly the remaining closed groups. -/
theorem groupTexts_flatMap_filter (title : List Char) (keep : Piece → Bool) :
    groupTexts (((pieces title).filter keep).flatMap Piece.chars) =
      ((pieces title).filter keep).filterMap Piece.inner? := by
  rw [groupTexts_eq_filterMap, ((scanned_pieces title).filter keep).pieces_flatMap_chars]

/-! ## Prefixes and text without brackets -/

/-- A character the scan passes over: no bracket of either kind. -/
def isBracket (c : Char) : Bool := c == '(' || c == ')' || c == '[' || c == ']'

theorem closingBracket_of_not_isBracket {c : Char} (inert : isBracket c = false) :
    closingBracket c = none := by
  unfold closingBracket
  split
  · simp [isBracket] at inert
  · simp [isBracket] at inert
  · rfl

theorem closingBracket_ne_of_not_isBracket {c : Char} (inert : isBracket c = false)
    (o : Char) : closingBracket o ≠ some c := by
  unfold closingBracket
  split
  · intro same
    cases same
    simp [isBracket] at inert
  · intro same
    cases same
    simp [isBracket] at inert
  · simp

theorem filterMap_inner_piecesFrom_isPrefix (a b : List Char) :
    ∀ current, (piecesFrom current a).filterMap Piece.inner? <+:
      (piecesFrom current (a ++ b)).filterMap Piece.inner? := by
  induction a with
  | nil =>
    rintro (_ | ⟨o, inner⟩) <;> simp [piecesFrom, Piece.inner?, List.filterMap_cons]
  | cons c a ih =>
    rintro (_ | ⟨o, inner⟩)
    · by_cases opens : (closingBracket c).isSome
      · simpa [piecesFrom, opens] using ih _
      · simpa [piecesFrom, opens, Piece.inner?, List.filterMap_cons] using ih none
    · by_cases closes : closingBracket o = some c
      · simpa [piecesFrom, closes, Piece.inner?, List.filterMap_cons] using ih none
      · simpa [piecesFrom, closes] using ih _

/-- The groups of a prefix of a title come first among the title's groups. -/
theorem groupTexts_isPrefix_append (a b : List Char) : groupTexts a <+: groupTexts (a ++ b) := by
  rw [groupTexts_eq_filterMap, groupTexts_eq_filterMap]
  exact filterMap_inner_piecesFrom_isPrefix a b none

theorem filterMap_inner_piecesFrom_inert (b : List Char) (inert : ∀ c ∈ b, isBracket c = false) :
    ∀ current, (piecesFrom current b).filterMap Piece.inner? = [] := by
  induction b with
  | nil => rintro (_ | ⟨o, inner⟩) <;> simp [piecesFrom, Piece.inner?, List.filterMap_cons]
  | cons c b ih =>
    have here := inert c (by simp)
    have rest := ih (fun d mem => inert d (by simp [mem]))
    rintro (_ | ⟨o, inner⟩)
    · simp only [piecesFrom, closingBracket_of_not_isBracket here, Option.isSome_none,
        Bool.false_eq_true, if_false, List.filterMap_cons, Piece.inner?, rest]
    · simp only [piecesFrom, closingBracket_ne_of_not_isBracket here, if_false, rest]

theorem filterMap_inner_piecesFrom_append_inert (a b : List Char)
    (inert : ∀ c ∈ b, isBracket c = false) :
    ∀ current, (piecesFrom current (a ++ b)).filterMap Piece.inner? =
      (piecesFrom current a).filterMap Piece.inner? := by
  induction a with
  | nil =>
    intro current
    rw [List.nil_append, filterMap_inner_piecesFrom_inert b inert]
    rcases current with _ | ⟨o, inner⟩ <;> simp [piecesFrom, Piece.inner?, List.filterMap_cons]
  | cons c a ih =>
    rintro (_ | ⟨o, inner⟩)
    · by_cases opens : (closingBracket c).isSome
      · simpa [piecesFrom, opens] using ih _
      · simpa [piecesFrom, opens, Piece.inner?, List.filterMap_cons] using ih none
    · by_cases closes : closingBracket o = some c
      · simpa [piecesFrom, closes, Piece.inner?, List.filterMap_cons] using ih none
      · simpa [piecesFrom, closes] using ih _

/-- Text without brackets after a title adds no group. -/
theorem groupTexts_append_inert (a b : List Char) (inert : ∀ c ∈ b, isBracket c = false) :
    groupTexts (a ++ b) = groupTexts a := by
  rw [groupTexts_eq_filterMap, groupTexts_eq_filterMap]
  exact filterMap_inner_piecesFrom_append_inert a b inert none

/-- Text without brackets before a title adds no group. -/
theorem groupTexts_inert_append (a b : List Char) (inert : ∀ c ∈ a, isBracket c = false) :
    groupTexts (a ++ b) = groupTexts b := by
  rw [groupTexts_eq_filterMap, groupTexts_eq_filterMap]
  induction a with
  | nil => rfl
  | cons c a ih =>
    have here := closingBracket_of_not_isBracket (inert c (by simp))
    simp only [pieces, List.cons_append, piecesFrom, here, Option.isSome_none,
      Bool.false_eq_true, if_false, List.filterMap_cons, Piece.inner?] at ih ⊢
    exact ih (fun d mem => inert d (by simp [mem]))

end Text

end MusicProviders
