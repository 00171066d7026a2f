import MusicProviders.Media.Model
import MusicProviders.Json.Print
import Mathlib.Tactic.SplitIfs

/-! # Sets kept as lists

The model keeps its sets as lists in a canonical form, and its decoders rebuild that form
by inserting the elements they read one by one:

* `foldl_insertSorted`, `ExternalId.foldl_insert` — inserting, in order, the elements of
  a list already sorted without repeats gives the list back: each element is above all
  the elements before it, and is appended.
* `ProviderMapping.setOf_of_distinct` — collecting mappings of pairwise different links
  keeps them all, in order.
* `sortByText_perm` — sorting JSON values by their text only reorders them.
-/

namespace MusicProviders

theorem insertSorted_of_lt {x : String} :
    ∀ {acc : List String}, (∀ y ∈ acc, y < x) → insertSorted x acc = acc ++ [x]
  | [], _ => rfl
  | y :: ys, below => by
    have yx : y < x := below y List.mem_cons_self
    have rest := insertSorted_of_lt fun z mem => below z (List.mem_cons_of_mem y mem)
    have other : x ≠ y := fun same => String.lt_irrefl y (by rw [same] at yx; exact yx)
    rw [insertSorted, if_neg other, if_neg (String.lt_asymm yx), rest]
    rfl

theorem foldl_insertSorted :
    ∀ {xs : List String}, xs.Pairwise (· < ·) → ∀ (acc : List String),
      (∀ a ∈ acc, ∀ x ∈ xs, a < x) → xs.foldl (fun acc s => insertSorted s acc) acc = acc ++ xs
  | [], _, acc, _ => by simp
  | x :: xs, sorted, acc, below => by
    rw [List.pairwise_cons] at sorted
    have before : ∀ a ∈ acc ++ [x], ∀ y ∈ xs, a < y := by
      intro a mem y later
      rcases List.mem_append.mp mem with old | new
      · exact below a old y (List.mem_cons_of_mem x later)
      · rw [List.mem_singleton.mp new]
        exact sorted.1 y later
    rw [List.foldl_cons, insertSorted_of_lt fun a mem => below a mem x List.mem_cons_self,
      foldl_insertSorted sorted.2 _ before, List.append_assoc, List.singleton_append]

namespace ExternalId

theorem lt_irrefl (x : ExternalId) : lt x x = false := by
  simp only [lt, Nat.lt_irrefl, String.lt_irrefl, decide_false, Bool.false_or, Bool.and_false]

theorem lt_asymm {x y : ExternalId} (less : lt x y = true) : lt y x = false := by
  simp only [lt, Bool.or_eq_true, decide_eq_true_eq, Bool.and_eq_true] at less
  simp only [lt, Bool.or_eq_false_iff, decide_eq_false_iff_not, Bool.and_eq_false_iff]
  rcases less with rank | ⟨kind, value⟩
  · exact ⟨by omega, .inl fun same => by rw [same] at rank; omega⟩
  · exact ⟨by rw [kind]; omega, .inr (String.lt_asymm value)⟩

theorem insert_of_lt {x : ExternalId} :
    ∀ {acc : List ExternalId}, (∀ y ∈ acc, lt y x = true) → insert x acc = acc ++ [x]
  | [], _ => rfl
  | y :: ys, below => by
    have yx : lt y x = true := below y List.mem_cons_self
    have rest := insert_of_lt fun z mem => below z (List.mem_cons_of_mem y mem)
    have other : x ≠ y := fun same => by rw [same, lt_irrefl] at yx; cases yx
    rw [insert, if_neg other, lt_asymm yx, rest]
    rfl

theorem foldl_insert :
    ∀ {xs : List ExternalId}, xs.Pairwise (lt · · = true) → ∀ (acc : List ExternalId),
      (∀ a ∈ acc, ∀ x ∈ xs, lt a x = true) → xs.foldl (fun acc x => insert x acc) acc = acc ++ xs
  | [], _, acc, _ => by simp
  | x :: xs, sorted, acc, below => by
    rw [List.pairwise_cons] at sorted
    have before : ∀ a ∈ acc ++ [x], ∀ y ∈ xs, lt a y = true := by
      intro a mem y later
      rcases List.mem_append.mp mem with old | new
      · exact below a old y (List.mem_cons_of_mem x later)
      · rw [List.mem_singleton.mp new]
        exact sorted.1 y later
    rw [List.foldl_cons, insert_of_lt fun a mem => below a mem x List.mem_cons_self,
      foldl_insert sorted.2 _ before, List.append_assoc, List.singleton_append]

end ExternalId

namespace ProviderMapping

theorem sameLink_comm (a b : ProviderMapping) : a.sameLink b = b.sameLink a := by
  rw [Bool.eq_iff_iff]
  simp only [sameLink, Bool.and_eq_true, beq_iff_eq]
  exact ⟨fun ⟨i, d⟩ => ⟨i.symm, d.symm⟩, fun ⟨i, d⟩ => ⟨i.symm, d.symm⟩⟩

theorem foldl_insert_of_distinct :
    ∀ (ms acc : List ProviderMapping), (acc ++ ms).Pairwise (fun a b => a.sameLink b = false) →
      ms.foldl (fun s m => insert m s) acc = acc ++ ms
  | [], acc, _ => by simp
  | m :: ms, acc, distinct => by
    have fresh : acc.any (sameLink m) = false := by
      rw [List.any_eq_false]
      intro a mem
      rw [sameLink_comm]
      simpa using List.pairwise_append.mp distinct |>.2.2 a mem m List.mem_cons_self
    rw [List.foldl_cons, insert, fresh, if_neg Bool.false_ne_true,
      foldl_insert_of_distinct ms (acc ++ [m]) (by simpa using distinct)]
    simp

theorem setOf_of_distinct {ms : List ProviderMapping}
    (distinct : ms.Pairwise (fun a b => a.sameLink b = false)) : setOf ms = ms :=
  foldl_insert_of_distinct ms [] distinct

end ProviderMapping

namespace Json

theorem insertByText_perm (x : String × Json) :
    ∀ acc : List (String × Json), (insertByText x acc).Perm (x :: acc)
  | [] => .refl _
  | y :: ys => by
    unfold insertByText
    split_ifs
    · exact .refl _
    · exact ((insertByText_perm x ys).cons y).trans (.swap x y ys)

theorem foldl_insertByText_perm :
    ∀ (values : List Json) (acc : List (String × Json)),
      (values.foldl (fun acc v => insertByText (v.render, v) acc) acc).Perm
        (acc ++ values.map fun v => (v.render, v))
  | [], acc => by simp
  | v :: values, acc => by
    rw [List.foldl_cons, List.map_cons]
    exact (foldl_insertByText_perm values _).trans
      (((insertByText_perm _ acc).append_right _).trans List.perm_middle.symm)

end Json

theorem sortByText_perm (values : List Json) : (sortByText values).Perm values := by
  have sorted := (Json.foldl_insertByText_perm values []).map Prod.snd
  rw [List.nil_append, List.map_map] at sorted
  simpa [sortByText, Function.comp_def] using sorted

end MusicProviders
