import MusicProviders.Proofs.Text.BlankRuns

/-! # What the name and the version of a title are

`parseTitleAndVersion` cuts a version out of a track title. Built on the pieces of a
title (`BracketPieces`) and on the collapse of its blank runs (`BlankRuns`), this module
says what the two halves are, for every title.

* `splitTitle_cases` — the three ways a title is split: by its version groups, by the
  text after its last `" - "`, or not at all.
* `versionGroups_name_eq_nil` — the name holds no version group: cutting groups out
  cannot join text into a new group, and the dash split keeps a prefix of the title.
* `empty_version_or_first_version_text` — a title with an empty version loses no text,
  only its blanks are normalised; a version, when there is one, is the trimmed inner text
  of the first version group or, without such a group, the text after the last `" - "`.
* `nonVersionGroup_in_name_or_cut_by_dash` — a group that is no version stays whole in
  the name, unless the dash split ends the name before the group does;
  `featuringGroup_cut_by_dash` is such a title.
-/

namespace MusicProviders

namespace Text

/-- The groups of a title whose inner text is version text, left to right. -/
def versionGroups (title : List Char) : List (Nat × Nat) :=
  (bracketGroups title).filter fun g => isVersionText (groupInner title g)

/-- The characters of a group, its brackets included. -/
def groupChars (title : List Char) (g : Nat × Nat) : List Char :=
  (title.drop g.1).take (g.2 - g.1)

theorem parseTitleAndVersion_eq (title : String) :
    parseTitleAndVersion title =
      (String.ofList (splitTitle title.toList).1, String.ofList (splitTitle title.toList).2) := by
  unfold parseTitleAndVersion
  rcases splitTitle title.toList with ⟨name, version⟩
  rfl

@[simp]
theorem toList_parseTitleAndVersion_fst (title : String) :
    (parseTitleAndVersion title).1.toList = (splitTitle title.toList).1 := by
  simp [parseTitleAndVersion_eq]

@[simp]
theorem toList_parseTitleAndVersion_snd (title : String) :
    (parseTitleAndVersion title).2.toList = (splitTitle title.toList).2 := by
  simp [parseTitleAndVersion_eq]

theorem toList_normalizeBlanks (s : String) :
    (normalizeBlanks s).toList = splitTitle.joinWords (wordsChars s.toList) := by
  simp [normalizeBlanks, words, splitTitle.joinWords, String.toList_intercalate,
    Function.comp_def]

theorem versionGroups_eq_nil_iff (title : List Char) :
    versionGroups title = [] ↔ ∀ s ∈ groupTexts title, isVersionText s = false := by
  rw [versionGroups, groupTexts, List.filter_eq_nil_iff, List.forall_mem_map]
  simp

/-- The version text of the first version group is the first version text among the
inner texts of all groups. -/
theorem find?_groupTexts_eq (title : List Char) :
    (groupTexts title).find? isVersionText = (versionGroups title).head?.map (groupInner title) := by
  rw [groupTexts, List.find?_map, versionGroups, List.head?_filter]
  rfl

/-- A title the dash split finds nothing in holds no `" - "`. -/
theorem not_dash_infix_of_splitAtLastDash_eq_none {title : List Char}
    (none : splitAtLastDash title = none) : ¬ [' ', '-', ' '] <:+: title := by
  induction title with
  | nil => simp
  | cons c rest ih =>
    unfold splitAtLastDash at none
    cases later : splitAtLastDash rest with
    | some cut => simp [later] at none
    | none =>
      simp only [later] at none
      rw [List.infix_cons_iff]
      rintro (leading | inner)
      · split at none
        · simp at none
        next noDash => exact noDash _ (List.prefix_iff_eq_append.mp leading).symm
      · exact ih later inner

/-- The dash split cuts the title around its last `" - "`: no other one starts after the
first character of the one it cuts at. -/
theorem eq_of_splitAtLastDash {title head tail : List Char}
    (split : splitAtLastDash title = some (head, tail)) :
    title = head ++ ' ' :: '-' :: ' ' :: tail ∧ ¬ [' ', '-', ' '] <:+: ' ' :: tail := by
  induction title generalizing head tail with
  | nil => simp [splitAtLastDash] at split
  | cons c rest ih =>
    unfold splitAtLastDash at split
    cases later : splitAtLastDash rest with
    | some cut =>
      obtain ⟨head', tail'⟩ := cut
      simp only [later, Option.some.injEq, Prod.mk.injEq] at split
      obtain ⟨rfl, rfl⟩ := split
      obtain ⟨spelled, last⟩ := ih later
      exact ⟨by simp [spelled], last⟩
    | none =>
      simp only [later] at split
      split at split
      next tail' spelled =>
        simp only [Option.some.injEq, Prod.mk.injEq] at split
        obtain ⟨rfl, rfl⟩ := split
        simp only [List.cons.injEq] at spelled
        obtain ⟨rfl, rfl⟩ := spelled
        -- a later separator would lie in the rest, which holds none
        refine ⟨rfl, fun inner => not_dash_infix_of_splitAtLastDash_eq_none later ?_⟩
        exact inner.trans (List.suffix_cons '-' _).isInfix
      next => simp at split

/-- The three ways a title is split: by its version groups, by the text after its last
`" - "` when that text is a version, or not at all. -/
theorem splitTitle_cases (title : List Char) :
    (∃ g gs, versionGroups (trimBlankChars title) = g :: gs ∧
      splitTitle title =
        (splitTitle.joinWords (wordsChars (removeGroups (trimBlankChars title) (g :: gs))),
          trimBlankChars (groupInner (trimBlankChars title) g))) ∨
    (versionGroups (trimBlankChars title) = [] ∧ ∃ head tail,
      splitAtLastDash (trimBlankChars title) = some (head, tail) ∧ isVersionText tail = true ∧
      splitTitle title = (splitTitle.joinWords (wordsChars head), trimBlankChars tail)) ∨
    (versionGroups (trimBlankChars title) = [] ∧
      (∀ head tail, splitAtLastDash (trimBlankChars title) = some (head, tail) →
        isVersionText tail = false) ∧
      splitTitle title = (splitTitle.joinWords (wordsChars (trimBlankChars title)), [])) := by
  unfold splitTitle
  cases found : versionGroups (trimBlankChars title) with
  | cons g gs =>
    simp only [versionGroups] at found
    exact Or.inl ⟨g, gs, rfl, by simp only [found]⟩
  | nil =>
    simp only [versionGroups] at found
    simp only [found, true_and]
    cases split : splitAtLastDash (trimBlankChars title) with
    | some cut =>
      obtain ⟨head, tail⟩ := cut
      cases isVersion : isVersionText tail
      · exact Or.inr (Or.inr ⟨by simp [isVersion], by simp [isVersion]⟩)
      · exact Or.inr (Or.inl ⟨head, tail, rfl, isVersion, by simp [isVersion]⟩)
    | none => exact Or.inr (Or.inr ⟨by simp, rfl⟩)

/-- Cutting out the version groups leaves only groups that are no versions. -/
theorem not_isVersionText_of_mem_groupTexts_removeGroups (title : List Char) :
    ∀ s ∈ groupTexts (removeGroups title (versionGroups title)), isVersionText s = false := by
  rw [versionGroups, removeGroups_filter, groupTexts_flatMap_filter]
  intro s mem
  obtain ⟨p, kept, inner⟩ := List.mem_filterMap.mp mem
  cases p with
  | group o inner' c =>
    simp only [Piece.inner?, Option.some.injEq] at inner
    subst inner
    simpa [Piece.isGroupWith] using (List.mem_filter.mp kept).2
  | plain c => simp [Piece.inner?] at inner
  | unclosed o rest => simp [Piece.inner?] at inner

/-- No version group is left in the name. -/
theorem versionGroups_name_eq_nil (title : String) :
    versionGroups (parseTitleAndVersion title).1.toList = [] := by
  rw [versionGroups_eq_nil_iff, toList_parseTitleAndVersion_fst]
  -- the name is the normalised form of a text whose groups are all no versions, and
  -- normalising only collapses blanks inside the groups
  suffices plain : ∃ raw, (splitTitle title.toList).1 = splitTitle.joinWords (wordsChars raw) ∧
      ∀ s ∈ groupTexts raw, isVersionText s = false by
    obtain ⟨raw, named, kept⟩ := plain
    intro s mem
    rw [named, groupTexts_joinWords_wordsChars, List.mem_map] at mem
    obtain ⟨s', mem', rfl⟩ := mem
    rw [isVersionText_collapseFrom]
    exact kept s' mem'
  rcases splitTitle_cases title.toList with
    ⟨g, gs, found, split⟩ | ⟨none, head, tail, dash, -, split⟩ | ⟨none, -, split⟩
  · refine ⟨_, by rw [split], ?_⟩
    rw [← found]
    exact not_isVersionText_of_mem_groupTexts_removeGroups _
  · refine ⟨head, by rw [split], fun s mem => ?_⟩
    -- the groups of a prefix are a prefix of the groups of the title
    have leading := groupTexts_isPrefix_append head (' ' :: '-' :: ' ' :: tail)
    rw [← (eq_of_splitAtLastDash dash).1] at leading
    exact (versionGroups_eq_nil_iff _).mp none s (leading.subset mem)
  · exact ⟨_, by rw [split], (versionGroups_eq_nil_iff _).mp none⟩

/-- A title with an empty version keeps all its text, with its blanks normalised. A
version, when there is one, is the trimmed inner text of the first group holding version
text or, when no group does, the trimmed version text after the last `" - "` of the
trimmed title (no `" - "` starts after the first character of that one). -/
theorem empty_version_or_first_version_text (title : String) :
    ((parseTitleAndVersion title).2 = "" ∧
        (parseTitleAndVersion title).1 = normalizeBlanks title) ∨
      ((parseTitleAndVersion title).2 ≠ "" ∧
        ((∃ inner, (groupTexts title.toList).find? isVersionText = some inner ∧
            (parseTitleAndVersion title).2.toList = trimBlankChars inner) ∨
          ((groupTexts title.toList).find? isVersionText = none ∧
            ∃ head tail, trimBlankChars title.toList = head ++ ' ' :: '-' :: ' ' :: tail ∧
              ¬ [' ', '-', ' '] <:+: ' ' :: tail ∧ isVersionText tail = true ∧
              (parseTitleAndVersion title).2.toList = trimBlankChars tail))) := by
  have first := find?_groupTexts_eq (trimBlankChars title.toList)
  rw [groupTexts_trimBlankChars] at first
  simp only [ne_eq, ← String.toList_inj, toList_parseTitleAndVersion_fst,
    toList_parseTitleAndVersion_snd, String.toList_empty, toList_normalizeBlanks]
  rcases splitTitle_cases title.toList with
    ⟨g, gs, found, split⟩ | ⟨none, head, tail, dash, isVersion, split⟩ | ⟨none, -, split⟩
  · have isVersion : isVersionText (groupInner (trimBlankChars title.toList) g) = true := by
      have mem : g ∈ versionGroups (trimBlankChars title.toList) := by simp [found]
      exact (List.mem_filter.mp mem).2
    rw [split]
    exact Or.inr ⟨trimBlankChars_ne_nil_of_isVersionText isVersion,
      Or.inl ⟨_, by rw [first, found]; rfl, rfl⟩⟩
  · rw [split]
    exact Or.inr ⟨trimBlankChars_ne_nil_of_isVersionText isVersion,
      Or.inr ⟨by rw [first, none]; rfl, head, tail, (eq_of_splitAtLastDash dash).1,
        (eq_of_splitAtLastDash dash).2, isVersion, rfl⟩⟩
  · rw [split, joinWords_wordsChars_trimBlankChars]
    exact Or.inl ⟨rfl, rfl⟩

/-- A title is spelled by its pieces: a group piece sits between the text of the pieces
before it and the text of those after it. -/
theorem eq_of_pieces_eq {title : List Char} {before after : List Piece} {o c : Char}
    {inner : List Char} (split : pieces title = before ++ .group o inner c :: after) :
    title = before.flatMap Piece.chars ++ o :: (inner ++ c :: after.flatMap Piece.chars) := by
  rw [← flatMap_chars_pieces title, split]
  simp [Piece.chars_group_append]

theorem groupChars_group (before inner after : List Char) (o c : Char) :
    groupChars (before ++ o :: (inner ++ c :: after))
      (before.length, before.length + (inner.length + 2)) = o :: (inner ++ [c]) := by
  simp [groupChars, List.take_append, List.take_of_length_le]

/-- A prefix of a title that reaches past a group holds the group. -/
theorem eq_of_prefix_covers_group {before inner after head rest : List Char} {o c : Char}
    (spelled : head ++ rest = before ++ o :: (inner ++ c :: after))
    (covers : before.length + (inner.length + 2) ≤ head.length) :
    head = before ++ o :: (inner ++ c :: after.take (head.length - (before.length + (inner.length + 2)))) := by
  calc head = (head ++ rest).take head.length := List.take_left.symm
    _ = (before ++ o :: (inner ++ [c]) ++ after).take head.length := by simp [spelled]
    _ = _ := by
      rw [List.take_append, List.take_of_length_le (by simp; omega)]
      simp

/-- A group that holds no version text stays whole in the name, up to its blanks, unless
the title has no version group and the dash split ends the name before the group ends. -/
theorem nonVersionGroup_in_name_or_cut_by_dash (title : String) (g : Nat × Nat)
    (found : g ∈ bracketGroups (trimBlankChars title.toList))
    (notVersion : isVersionText (groupInner (trimBlankChars title.toList) g) = false) :
    splitTitle.joinWords (wordsChars (groupChars (trimBlankChars title.toList) g)) <:+:
        (parseTitleAndVersion title).1.toList ∨
      (versionGroups (trimBlankChars title.toList) = [] ∧
        ∃ head tail, splitAtLastDash (trimBlankChars title.toList) = some (head, tail) ∧
          isVersionText tail = true ∧ head.length < g.2) := by
  rw [bracketGroups_eq_spansWhere] at found
  obtain ⟨before, o, inner, c, after, split, -, rfl⟩ := exists_of_mem_spansWhere _ _ 0 _ found
  have spelled := eq_of_pieces_eq split
  have mem : Piece.group o inner c ∈ pieces (trimBlankChars title.toList) := by simp [split]
  have closes : closingBracket o = some c := (scanned_pieces _).closes_of_mem mem
  obtain ⟨openWord, closeWord⟩ := not_isBlank_of_closingBracket closes
  simp only [Nat.zero_add] at notVersion ⊢
  rw [spelled, groupInner_group] at notVersion
  have chars : groupChars (trimBlankChars title.toList) ((before.flatMap Piece.chars).length,
      (before.flatMap Piece.chars).length + (inner.length + 2)) = o :: (inner ++ [c]) := by
    rw [spelled, groupChars_group]
  rw [chars, toList_parseTitleAndVersion_fst]
  rcases splitTitle_cases title.toList with
    ⟨g, gs, cut, named⟩ | ⟨none, head, tail, dash, isVersion, named⟩ | ⟨none, -, named⟩
  · -- the version groups are cut out, and this group is none of them
    left
    rw [named, ← cut, versionGroups, removeGroups_filter, split, List.filter_append,
      List.filter_cons_of_pos (by simp [Piece.isGroupWith, notVersion]), List.flatMap_append,
      List.flatMap_cons, Piece.chars_group_append]
    exact joinWords_wordsChars_infix _ _ _ openWord closeWord
  · -- the name is the text before the last dash, which holds the group or ends inside it
    by_cases covers : (before.flatMap Piece.chars).length + (inner.length + 2) ≤ head.length
    · left
      have whole := (eq_of_splitAtLastDash dash).1.symm.trans spelled
      rw [named, eq_of_prefix_covers_group whole covers]
      exact joinWords_wordsChars_infix _ _ _ openWord closeWord
    · exact Or.inr ⟨none, head, tail, dash, isVersion, by omega⟩
  · left
    rw [named, spelled]
    exact joinWords_wordsChars_infix _ _ _ openWord closeWord

/-- The featuring group of `"Song (Live) (feat. A)"` stays in its name `"Song (feat. A)"`. -/
theorem featuringGroup_kept_beside_version :
    (12, 21) ∈ bracketGroups (trimBlankChars "Song (Live) (feat. A)".toList) ∧
      isVersionText (groupInner (trimBlankChars "Song (Live) (feat. A)".toList) (12, 21)) = false ∧
      (splitTitle.joinWords
          (wordsChars (groupChars (trimBlankChars "Song (Live) (feat. A)".toList) (12, 21))) <:+:
          (parseTitleAndVersion "Song (Live) (feat. A)").1.toList ∨
        (versionGroups (trimBlankChars "Song (Live) (feat. A)".toList) = [] ∧
          ∃ head tail,
            splitAtLastDash (trimBlankChars "Song (Live) (feat. A)".toList) = some (head, tail) ∧
            isVersionText tail = true ∧ head.length < (12, 21).2)) := by
  have found : (12, 21) ∈ bracketGroups (trimBlankChars "Song (Live) (feat. A)".toList) := by
    decide +kernel
  have notVersion :
      isVersionText (groupInner (trimBlankChars "Song (Live) (feat. A)".toList) (12, 21)) = false := by
    decide +kernel
  exact ⟨found, notVersion, nonVersionGroup_in_name_or_cut_by_dash _ _ found notVersion⟩

/-- Without a version group, the dash split can cut a featuring group away from the name:
`"Song - Remix (feat. A)"` is named `"Song"`, and its group lands in the version. -/
theorem featuringGroup_cut_by_dash :
    parseTitleAndVersion "Song - Remix (feat. A)" = ("Song", "Remix (feat. A)") ∧
      (13, 22) ∈ bracketGroups (trimBlankChars "Song - Remix (feat. A)".toList) ∧
      isVersionText (groupInner (trimBlankChars "Song - Remix (feat. A)".toList) (13, 22)) = false ∧
      ¬ splitTitle.joinWords
          (wordsChars (groupChars (trimBlankChars "Song - Remix (feat. A)".toList) (13, 22))) <:+:
        (parseTitleAndVersion "Song - Remix (feat. A)").1.toList := by
  decide +kernel

end Text

end MusicProviders
