import Mathlib.Data.List.DropRight

/-!
# Texts as lines

A text and the list of its lines, cut at each line feed; the empty lines at the end of a text, and
the line feeds there.

* `lines_unlines`, `unlines_lines`: cutting and joining undo each other.
* `trimEnd_unlines`: trimming line feeds off a text drops its last empty lines.
-/

namespace Meowbox.Lines

/-- `text.split('\n')`. -/
def lines (text : List Char) : List (List Char) := text.splitOn '\n'

/-- `lines.join('\n')`. -/
def unlines (ls : List (List Char)) : List Char := ['\n'].intercalate ls

/-- `text.replace(/\n+$/, '')`. -/
def trimEnd (text : List Char) : List Char := text.rdropWhile (· == '\n')

/-- The lines up to the last one that is not empty. -/
def body (ls : List (List Char)) : List (List Char) := ls.rdropWhile List.isEmpty

variable {ls : List (List Char)} {line text : List Char}

theorem unlines_lines : unlines (lines text) = text := List.intercalate_splitOn '\n'

theorem lines_unlines (hpl : ∀ line ∈ ls, '\n' ∉ line) (hne : ls ≠ []) :
    lines (unlines ls) = ls :=
  List.splitOn_intercalate '\n' hpl hne

/-- A line that goes on is cut again from its beginning. -/
theorem splitOn_append {α : Type*} [BEq α] (a : α) (xs ys : List α) :
    (xs ++ ys).splitOn a =
      (xs.splitOn a).dropLast ++ ((xs.splitOn a).getLastD [] ++ ys).splitOn a := by
  induction xs with
  | nil => simp
  | cons x xs ih =>
    obtain ⟨first, rest, hspl⟩ := List.exists_cons_of_ne_nil (List.splitOn_ne_nil a xs)
    rw [List.cons_append, List.splitOn_cons_eq_if_modifyHead, ih,
      List.splitOn_cons_eq_if_modifyHead, hspl]
    by_cases hx : (x == a) = true
    · simp [hx]
    · cases rest with
      | nil => simp [hx, List.splitOn_cons_eq_if_modifyHead]
      | cons second rest => simp [hx]

theorem lines_newline : lines (text ++ ['\n']) = lines text ++ [[]] := by
  unfold lines
  rw [List.splitOn_append_cons_self, List.splitOn_nil]

/-- No line holds a line feed. -/
theorem not_mem_of_mem_lines (h : line ∈ lines text) : '\n' ∉ line := by
  unfold lines at h
  induction text generalizing line with
  | nil =>
    rw [List.splitOn_nil] at h
    rw [List.mem_singleton.mp h]
    exact List.not_mem_nil
  | cons c text ih =>
    rw [List.splitOn_cons_eq_if_modifyHead] at h
    split at h
    · rcases List.mem_cons.mp h with rfl | hrest
      · exact List.not_mem_nil
      · exact ih hrest
    · rename_i hc
      obtain ⟨first, rest, hspl⟩ := List.exists_cons_of_ne_nil (List.splitOn_ne_nil '\n' text)
      rw [hspl] at h ih
      rcases List.mem_cons.mp h with rfl | hrest
      · intro hmem
        rcases List.mem_cons.mp hmem with rfl | hfirst
        · exact hc (beq_self_eq_true _)
        · exact ih List.mem_cons_self hfirst
      · exact ih (List.mem_cons_of_mem _ hrest)

theorem unlines_concat (hne : ls ≠ []) : unlines (ls ++ [line]) = unlines ls ++ '\n' :: line := by
  unfold unlines
  induction ls with
  | nil => exact absurd rfl hne
  | cons first rest ih =>
    cases rest with
    | nil => simp
    | cons second rest =>
      have hrest := ih (List.cons_ne_nil second rest)
      rw [List.cons_append] at hrest
      rw [List.cons_append, List.cons_append, List.intercalate_cons_cons, hrest,
        List.intercalate_cons_cons]
      simp only [List.append_assoc]

theorem trimEnd_newline : trimEnd (text ++ ['\n']) = trimEnd text :=
  List.rdropWhile_concat_pos _ _ _ rfl

/-- **Trimming the line feeds off a text** drops the empty lines at its end. -/
theorem trimEnd_unlines (hpl : ∀ line ∈ ls, '\n' ∉ line) :
    trimEnd (unlines ls) = unlines (body ls) := by
  induction ls using List.reverseRecOn with
  | nil => rfl
  | append_singleton ls line ih =>
    have hfro : trimEnd (unlines ls) = unlines (body ls) :=
      ih fun l hl => hpl l (List.mem_append_left _ hl)
    have hline : '\n' ∉ line := hpl line (List.mem_append_right _ (List.mem_singleton_self _))
    by_cases hnil : line = []
    · subst hnil
      rw [body, List.rdropWhile_concat_pos _ _ _ rfl]
      cases ls with
      | nil => rfl
      | cons first rest =>
        rw [unlines_concat (List.cons_ne_nil _ _), trimEnd_newline]
        exact hfro
    · -- the last line ends with a character of its own
      obtain ⟨front, last, rfl⟩ := (List.eq_nil_or_concat line).resolve_left hnil
      rw [List.concat_eq_append] at hline ⊢
      rw [body, List.rdropWhile_concat_neg _ _ _ (by simp)]
      have hlast : last ≠ '\n' := by
        rintro rfl
        exact hline (List.mem_append_right _ (List.mem_singleton_self _))
      have hend : ∃ shown, unlines (ls ++ [front ++ [last]]) = shown ++ [last] := by
        cases ls with
        | nil => exact ⟨front, by simp [unlines]⟩
        | cons first rest =>
          rw [unlines_concat (List.cons_ne_nil _ _)]
          exact ⟨unlines (first :: rest) ++ '\n' :: front, by simp⟩
      obtain ⟨shown, hshown⟩ := hend
      rw [hshown, trimEnd, List.rdropWhile_concat_neg _ _ _ (by simpa using hlast)]

/-- Behind the body there are empty lines only. -/
theorem body_append_empty (ls : List (List Char)) : ∃ k, ls = body ls ++ List.replicate k [] := by
  induction ls using List.reverseRecOn with
  | nil => exact ⟨0, rfl⟩
  | append_singleton ls line ih =>
    obtain ⟨k, hk⟩ := ih
    by_cases hnil : line = []
    · refine ⟨k + 1, ?_⟩
      rw [hnil, body, List.rdropWhile_concat_pos _ _ _ rfl, List.replicate_succ',
        ← List.append_assoc]
      exact congrArg (· ++ [[]]) hk
    · refine ⟨0, ?_⟩
      rw [body, List.rdropWhile_concat_neg _ _ _ (by simpa using hnil), List.replicate_zero,
        List.append_nil]

theorem body_concat_empty : body (ls ++ [[]]) = body ls := List.rdropWhile_concat_pos _ _ _ rfl

theorem body_body : body (body ls) = body ls := List.rdropWhile_idempotent _ _

theorem mem_of_mem_body (h : line ∈ body ls) : line ∈ ls := (List.rdropWhile_prefix _ ls).subset h

/-- A text that ends with one line feed, in its lines. -/
theorem lines_trimmed (hpl : ∀ line ∈ ls, '\n' ∉ line) (hne : body ls ≠ []) :
    lines (trimEnd (unlines ls) ++ ['\n']) = body ls ++ [[]] := by
  rw [lines_newline, trimEnd_unlines hpl,
    lines_unlines (fun line hline => hpl line (mem_of_mem_body hline)) hne]

end Meowbox.Lines
