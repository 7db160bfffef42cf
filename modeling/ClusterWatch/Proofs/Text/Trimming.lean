import Mathlib.Data.List.DropRight
import ClusterWatch.Text.Blank

/-!
# Trimmed texts

A trimmed text begins with no blank, and a text that neither begins nor ends with a blank
is left as it is.

* `StartsPlain` — a text that begins with no blank; `startsPlain_trimChars` — trimmed texts do.
* `trimChars_eq_self` — where there is nothing to trim.
* `trimChars_padded` — a text without blanks is found again between blanks.
-/

namespace ClusterWatch.Text

/-- The text begins with no blank. -/
def StartsPlain (cs : List Char) : Prop :=
  ∀ c ∈ cs.head?, isBlank c = false

theorem startsPlain_cons {c : Char} {cs : List Char} :
    StartsPlain (c :: cs) ↔ isBlank c = false := by
  simp [StartsPlain]

/-- How a text begins does not depend on what stands behind it, unless it is empty. -/
theorem startsPlain_append {cs : List Char} (hne : cs ≠ []) (rest : List Char) :
    StartsPlain (cs ++ rest) ↔ StartsPlain cs := by
  rw [StartsPlain, StartsPlain, List.head?_append_of_ne_nil _ hne]

/-- A trimmed text begins with no blank. -/
theorem startsPlain_trimChars (cs : List Char) : StartsPlain (trimChars cs) := by
  have hfront : StartsPlain (cs.dropWhile isBlank) := by
    intro c hc
    have hnot := List.head?_dropWhile_not isBlank cs
    rw [Option.mem_def.mp hc] at hnot
    exact hnot
  -- what is dropped at the end leaves the beginning, unless it is all there is
  obtain ⟨dropped, hdropped⟩ := List.rdropWhile_prefix isBlank (cs.dropWhile isBlank)
  rw [← hdropped] at hfront
  by_cases hne : trimChars cs = []
  · rw [hne]
    simp [StartsPlain]
  · exact (startsPlain_append hne dropped).mp hfront

/-- A text that neither begins nor ends with a blank is left as it is. -/
theorem trimChars_eq_self {cs : List Char} (hfirst : StartsPlain cs)
    (hlast : ∀ c ∈ cs.getLast?, isBlank c = false) : trimChars cs = cs := by
  -- nothing is taken off the front, and so the end is that of the whole text
  have hfront : cs.dropWhile isBlank = cs := by
    cases cs with
    | nil => rfl
    | cons c rest => rw [List.dropWhile_cons, startsPlain_cons.mp hfirst, if_neg Bool.false_ne_true]
  show List.rdropWhile isBlank (cs.dropWhile isBlank) = cs
  rw [hfront, List.rdropWhile_eq_self_iff]
  intro hne
  rw [hlast _ (List.getLast?_eq_some_getLast hne)]
  exact Bool.false_ne_true

/-- A text without blanks is what is left of it between blanks. -/
theorem trimChars_padded {before cs after : List Char}
    (hbefore : ∀ c ∈ before, isBlank c = true) (hplain : ∀ c ∈ cs, isBlank c = false)
    (hafter : ∀ c ∈ after, isBlank c = true) :
    trimChars (before ++ cs ++ after) = cs := by
  have hdrop {blanks : List Char} (hblanks : ∀ c ∈ blanks, isBlank c = true) :
      blanks.dropWhile isBlank = [] :=
    List.dropWhile_eq_nil_iff.mpr hblanks
  have hfront : (before ++ cs ++ after).dropWhile isBlank = (cs ++ after).dropWhile isBlank := by
    rw [List.append_assoc, List.dropWhile_append_of_pos hbefore]
  rw [trimChars, hfront]
  cases cs with
  | nil =>
    rw [List.nil_append, hdrop hafter, List.reverse_nil, List.dropWhile_nil, List.reverse_nil]
  | cons first rest =>
    rw [List.cons_append, List.dropWhile_cons_of_neg (by simp [hplain first List.mem_cons_self]),
      ← List.cons_append, List.reverse_append,
      List.dropWhile_append_of_pos fun c hc => hafter c (List.mem_reverse.mp hc)]
    -- the last character of the text stops the trimming from the end
    have hend : (first :: rest).reverse.dropWhile isBlank = (first :: rest).reverse := by
      refine List.dropWhile_eq_self_iff.mpr fun hlength => ?_
      simpa using hplain _ (List.mem_reverse.mp (List.getElem_mem hlength))
    rw [hend, List.reverse_reverse]

end ClusterWatch.Text
