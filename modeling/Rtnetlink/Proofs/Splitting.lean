import Mathlib.Tactic.Common
import Rtnetlink.Text.Split

/-!
# Where a text is split

The parts of a text are those of the library's `List.splitOn`, whose facts are used from here on.
They are the rows without the separator that joined again give the text.

* `Text.splitOn_eq`: the parts are the library's;
* `Text.splitOn_eq_iff`: which rows are the parts of a text.
-/

namespace Rtnetlink.Text

variable {separator : Char} {text part : List Char} {parts : List (List Char)}

lemma splitOn_eq (separator : Char) (text : List Char) :
    splitOn separator text = text.splitOn separator := by
  induction text with
  | nil => rw [splitOn, List.splitOn_nil]
  | cons c rest ih =>
    obtain ⟨part, parts, hparts⟩ :=
      List.exists_cons_of_ne_nil (List.splitOn_ne_nil separator rest)
    rw [splitOn, List.splitOn_cons_eq_if_modifyHead, ih, hparts]
    simp

lemma not_mem_of_mem_splitOn (h : part ∈ splitOn separator text) : separator ∉ part := by
  fun_induction splitOn separator text generalizing part with
  | case1 => simp_all
  | case2 rest ih =>
    rcases List.mem_cons.1 h with rfl | h
    · exact List.not_mem_nil
    · exact ih h
  | case3 c rest hc hnil ih =>
    rw [splitOn_eq] at hnil
    exact absurd hnil (List.splitOn_ne_nil separator rest)
  | case4 c rest hc first parts hparts ih =>
    rw [hparts] at ih
    rcases List.mem_cons.1 h with rfl | h
    · exact List.not_mem_cons_of_ne_of_not_mem (Ne.symm hc) (ih List.mem_cons_self)
    · exact ih (List.mem_cons_of_mem _ h)

/-- Joining parts adds nothing but the separator. -/
lemma not_mem_intercalate {c : Char} (hc : c ≠ separator) (hparts : ∀ part ∈ parts, c ∉ part) :
    c ∉ List.intercalate [separator] parts := by
  induction parts with
  | nil => simp [List.intercalate]
  | cons part parts ih =>
    obtain ⟨hpart, hparts⟩ := List.forall_mem_cons.1 hparts
    cases parts with
    | nil => simpa [List.intercalate] using hpart
    | cons next parts =>
      rw [List.intercalate_cons_cons]
      simp [hpart, hc, ih hparts]

/-- The parts of a text are those without the separator that it joins to the text. -/
lemma splitOn_eq_iff : splitOn separator text = parts ↔
    parts ≠ [] ∧ text = List.intercalate [separator] parts ∧ ∀ part ∈ parts, separator ∉ part := by
  constructor
  · rintro rfl
    refine ⟨?_, ?_, fun _ => not_mem_of_mem_splitOn⟩
    · rw [splitOn_eq]
      exact List.splitOn_ne_nil separator text
    · rw [splitOn_eq]
      exact (List.intercalate_splitOn separator).symm
  · rintro ⟨hparts, rfl, hfree⟩
    rw [splitOn_eq]
    exact List.splitOn_intercalate separator hfree hparts

end Rtnetlink.Text
