import MusicProviders.Proofs.Text.TitleVersion

/-! # Where a title is cut

Splitting a title cuts it at its bracket groups: it reads the text inside each group, and
keeps the text between the groups that hold a version. Text is stored as UTF-8, where a
character takes one to four bytes, and a cut is sound only between two characters, with
its lower end not past its upper end. Positions here count characters, and `byteOffset`
turns them into byte positions.

* `bracketGroups_sorted`, `bracketGroups_spell` — the groups come in order and do not
  overlap; each is an opening bracket, its inner text, and the first matching closing
  bracket after it.
* `byteOffset_mono`, `byteOffset_succ` — byte positions grow with character positions,
  and an ASCII bracket takes one byte, so one byte inside a group's brackets is one
  character inside.
* `titleSlices_fall_on_char_boundaries` — every cut the split makes lies on character
  boundaries, in order.
-/

namespace MusicProviders

namespace Text

/-! ## Byte positions -/

/-- The byte position of character position `i` of a text: the bytes its first `i`
characters take in UTF-8. -/
def byteOffset (text : List Char) (i : Nat) : Nat := (String.ofList (text.take i)).utf8ByteSize

/-- A byte position that falls between two characters of the text, or at either end. -/
def IsCharBoundary (text : List Char) (b : Nat) : Prop := ∃ i ≤ text.length, byteOffset text i = b

/-- A cut of the text from byte `lo` to byte `hi` that is sound: both ends lie on
character boundaries and the lower one is not past the upper one. -/
def SliceOk (text : List Char) (lo hi : Nat) : Prop :=
  lo ≤ hi ∧ IsCharBoundary text lo ∧ IsCharBoundary text hi

section Offsets

variable (text : List Char)

@[simp] theorem byteOffset_zero : byteOffset text 0 = 0 := by
  simp [byteOffset]

theorem byteOffset_add (i k : Nat) :
    byteOffset text (i + k) = byteOffset text i + (String.ofList ((text.drop i).take k)).utf8ByteSize := by
  unfold byteOffset
  rw [List.take_add, String.ofList_append, String.utf8ByteSize_append]

theorem byteOffset_mono {i j : Nat} (le : i ≤ j) : byteOffset text i ≤ byteOffset text j := by
  obtain ⟨k, rfl⟩ := Nat.exists_eq_add_of_le le
  rw [byteOffset_add]
  omega

theorem byteOffset_succ {i : Nat} {c : Char} (found : text[i]? = some c) :
    byteOffset text (i + 1) = byteOffset text i + c.utf8Size := by
  unfold byteOffset
  rw [List.take_add_one, found, Option.toList_some, String.ofList_append,
    String.utf8ByteSize_append, ← String.singleton_eq_ofList, String.utf8ByteSize_singleton]

theorem isCharBoundary_byteOffset {i : Nat} (within : i ≤ text.length) :
    IsCharBoundary text (byteOffset text i) :=
  ⟨i, within, rfl⟩

end Offsets

/-- Brackets are ASCII: each takes one byte. -/
theorem utf8Size_of_closingBracket {o c : Char} (closes : closingBracket o = some c) :
    o.utf8Size = 1 ∧ c.utf8Size = 1 := by
  unfold closingBracket at closes
  split at closes <;> cases closes <;> decide

theorem closingBracket_eq_some_iff {o c : Char} :
    closingBracket o = some c ↔ (o = '(' ∧ c = ')') ∨ (o = '[' ∧ c = ']') := by
  unfold closingBracket
  split <;> simp_all [eq_comm]

/-! ## The groups of a title -/

/-- A closed group of a scan holds no closing bracket of its own. -/
theorem Scanned.unmatched_of_mem {ps : List Piece} (scanned : Scanned ps) {o c : Char}
    {inner : List Char} (mem : .group o inner c ∈ ps) : c ∉ inner := by
  induction scanned with
  | nil => simp at mem
  | plain _ _ ih => exact ih (by simpa using mem)
  | group _ unmatched _ ih =>
    rcases List.mem_cons.mp mem with same | later
    · cases same
      exact unmatched
    · exact ih later
  | unclosed _ _ => simp at mem

/-- The spans of groups come in order, each ending before the next begins. -/
theorem spansWhere_sorted (q : List Char → Bool) (ps : List Piece) :
    ∀ start, (Piece.spansWhere q start ps).Pairwise (fun g h => g.2 ≤ h.1) := by
  induction ps with
  | nil => simp [Piece.spansWhere]
  | cons p ps ih =>
    intro start
    rw [Piece.spansWhere, List.pairwise_append]
    refine ⟨by split <;> simp, ih _, fun g here h later => ?_⟩
    -- the span of `p` ends where the spans of the later pieces start
    have after := spansWhere_start_le q ps _ h later
    split at here
    · rw [List.mem_singleton] at here
      rw [here]
      exact after
    · simp at here

theorem bracketGroups_sorted (title : List Char) :
    (bracketGroups title).Pairwise (fun g h => g.2 ≤ h.1) := by
  rw [bracketGroups_eq_spansWhere]
  exact spansWhere_sorted _ _ 0

/-- Each group of a title is an opening bracket, its inner text and the first matching
closing bracket after it. -/
theorem bracketGroups_spell {title : List Char} {g : Nat × Nat} (mem : g ∈ bracketGroups title) :
    ∃ o c, closingBracket o = some c ∧ c ∉ groupInner title g ∧
      groupChars title g = o :: (groupInner title g ++ [c]) ∧
      title[g.1]? = some o ∧ title[g.2 - 1]? = some c ∧ g.1 + 2 ≤ g.2 ∧ g.2 ≤ title.length := by
  rw [bracketGroups_eq_spansWhere] at mem
  obtain ⟨before, o, inner, c, after, split, -, place⟩ :=
    exists_of_mem_spansWhere (fun _ => true) (pieces title) 0 g mem
  have spelled := eq_of_pieces_eq split
  have member : Piece.group o inner c ∈ pieces title := by simp [split]
  set lead := before.flatMap Piece.chars
  have inside : groupInner title g = inner := by
    rw [place, spelled, Nat.zero_add]
    exact groupInner_group lead inner _ o c
  refine ⟨o, c, (scanned_pieces title).closes_of_mem member, ?_, ?_, ?_, ?_, ?_, ?_⟩
  · rw [inside]
    exact (scanned_pieces title).unmatched_of_mem member
  · rw [inside, place, spelled, Nat.zero_add]
    exact groupChars_group lead inner _ o c
  · rw [place, spelled]
    simp
  · rw [place, spelled, Nat.zero_add,
      show lead.length + (inner.length + 2) - 1 = lead.length + (inner.length + 1) by omega,
      List.getElem?_append_right (by omega), Nat.add_sub_cancel_left, List.getElem?_cons_succ,
      List.getElem?_append_right le_rfl, Nat.sub_self, List.getElem?_cons_zero]
  · rw [place]
    simp
  · rw [place, spelled]
    simp

/-! ## The cuts -/

/-- The text around groups that come in order, cut from `last` to the first group, from
each group to the next, and from the last group to the end: every cut is sound. -/
theorem cuts_sliceOk (text : List Char) :
    ∀ (gs : List (Nat × Nat)) (last : Nat), gs.Pairwise (fun g h => g.2 ≤ h.1) →
      (∀ g ∈ gs, last ≤ g.1 ∧ g.1 ≤ g.2 ∧ g.2 ≤ text.length) → last ≤ text.length →
      List.Forall₂ (SliceOk text) (byteOffset text last :: gs.map (byteOffset text ·.2))
        (gs.map (byteOffset text ·.1) ++ [byteOffset text text.length])
  | [], last, _, _, within => by
    simp only [List.map_nil, List.nil_append, List.forall₂_cons, List.Forall₂.nil, and_true]
    exact ⟨byteOffset_mono text within, isCharBoundary_byteOffset text within,
      isCharBoundary_byteOffset text le_rfl⟩
  | g :: gs, last, sorted, placed, within => by
    rw [List.pairwise_cons] at sorted
    obtain ⟨starts, ordered, ends⟩ := placed g (by simp)
    simp only [List.map_cons, List.cons_append, List.forall₂_cons]
    refine ⟨⟨byteOffset_mono text starts, isCharBoundary_byteOffset text (by omega),
      isCharBoundary_byteOffset text (by omega)⟩, ?_⟩
    -- the next cut starts where `g` ends
    refine cuts_sliceOk text gs g.2 sorted.2 (fun h later => ?_) ends
    obtain ⟨hStarts, hOrdered, hEnds⟩ := placed h (by simp [later])
    exact ⟨sorted.1 h later, hOrdered, hEnds⟩

/-- Splitting a title never cuts it inside a character. The title is trimmed first; its
bracket groups, as byte ranges, come in order without overlapping, and each is non-empty.
Each group begins at an ASCII `(` or `[` and ends just after the first matching `)` or
`]`, so the text inside its brackets lies between character boundaries. The text before
the first version group, between two version groups and after the last one is cut in
order between character boundaries too. -/
theorem titleSlices_fall_on_char_boundaries (title : String) :
    (bracketGroups (trimBlankChars title.toList)).Pairwise (fun g h =>
      byteOffset (trimBlankChars title.toList) g.2 ≤ byteOffset (trimBlankChars title.toList) h.1) ∧
    (∀ g ∈ bracketGroups (trimBlankChars title.toList), ∃ o c,
      ((o = '(' ∧ c = ')') ∨ (o = '[' ∧ c = ']')) ∧
      groupChars (trimBlankChars title.toList) g =
        o :: (groupInner (trimBlankChars title.toList) g ++ [c]) ∧
      c ∉ groupInner (trimBlankChars title.toList) g ∧
      byteOffset (trimBlankChars title.toList) g.1 < byteOffset (trimBlankChars title.toList) g.2 ∧
      SliceOk (trimBlankChars title.toList) (byteOffset (trimBlankChars title.toList) g.1 + 1)
        (byteOffset (trimBlankChars title.toList) g.2 - 1)) ∧
    List.Forall₂ (SliceOk (trimBlankChars title.toList))
      (0 :: (versionGroups (trimBlankChars title.toList)).map
        (byteOffset (trimBlankChars title.toList) ·.2))
      ((versionGroups (trimBlankChars title.toList)).map
          (byteOffset (trimBlankChars title.toList) ·.1) ++
        [byteOffset (trimBlankChars title.toList) (trimBlankChars title.toList).length]) := by
  set text := trimBlankChars title.toList
  refine ⟨(bracketGroups_sorted text).imp fun before => byteOffset_mono text before,
    fun g mem => ?_, ?_⟩
  · obtain ⟨o, c, closes, unmatched, spelled, opening, closing, long, within⟩ :=
      bracketGroups_spell mem
    obtain ⟨openByte, closeByte⟩ := utf8Size_of_closingBracket closes
    -- the bracket at each end of the group takes one byte
    have afterOpening := byteOffset_succ text opening
    have beforeClosing := byteOffset_succ text closing
    rw [show g.2 - 1 + 1 = g.2 by omega] at beforeClosing
    have middle := byteOffset_mono text (show g.1 + 1 ≤ g.2 - 1 by omega)
    refine ⟨o, c, closingBracket_eq_some_iff.mp closes, spelled, unmatched, by omega,
      by omega, ?_, ?_⟩
    · rw [openByte] at afterOpening
      rw [← afterOpening]
      exact isCharBoundary_byteOffset text (by omega)
    · rw [closeByte] at beforeClosing
      rw [beforeClosing, Nat.add_sub_cancel]
      exact isCharBoundary_byteOffset text (by omega)
  · -- the version groups are some of the groups, so they come in order too
    have sorted : (versionGroups text).Pairwise (fun g h => g.2 ≤ h.1) :=
      (bracketGroups_sorted text).sublist List.filter_sublist
    have cuts := cuts_sliceOk text (versionGroups text) 0 sorted (fun g mem => by
      obtain ⟨-, -, -, -, -, -, -, long, within⟩ := bracketGroups_spell (List.mem_filter.mp mem).1
      exact ⟨Nat.zero_le _, by omega, within⟩) (Nat.zero_le _)
    rwa [byteOffset_zero] at cuts

end Text

end MusicProviders
