import Mathlib.Algebra.GroupWithZero.Nat
import ReportQuery.Text.Search

/-!
# Joined texts

The length of joined texts depends on the lengths of the parts alone, and each
part stands where the parts before it end. Lines that hold no line break are
found again in the text that they make.
-/

namespace ReportQuery.Text

variable {between : String} {parts : List String}

theorem join_cons_cons (between s t : String) (rest : List String) :
    join between (s :: t :: rest) = s ++ between ++ join between (t :: rest) :=
  rfl

/-- Texts side by side, with nothing between them. -/
theorem join_empty_cons (s : String) (rest : List String) :
    join "" (s :: rest) = s ++ join "" rest := by
  cases rest <;> simp [join]

theorem join_empty_append (xs ys : List String) :
    join "" (xs ++ ys) = join "" xs ++ join "" ys := by
  induction xs with
  | nil => simp [join]
  | cons x xs ih =>
      rw [List.cons_append, join_empty_cons, join_empty_cons, ih,
        String.append_assoc]

theorem length_join (between : String) (parts : List String) :
    (join between parts).length =
      (parts.map String.length).sum + between.length * (parts.length - 1) := by
  induction parts with
  | nil => simp [join]
  | cons s rest ih =>
      cases rest with
      | nil => simp [join]
      | cons t rest =>
          rw [join_cons_cons, String.length_append, String.length_append, ih]
          simp only [List.map_cons, List.sum_cons, List.length_cons,
            Nat.add_sub_cancel, Nat.mul_add_one]
          omega

/-- A character of joined texts is in one of them or between them. -/
theorem mem_join {c : Char} (h : c ∈ (join between parts).toList) :
    c ∈ between.toList ∨ ∃ s ∈ parts, c ∈ s.toList := by
  induction parts with
  | nil => simp [join] at h
  | cons s rest ih =>
      cases rest with
      | nil => exact .inr ⟨s, List.mem_cons_self, h⟩
      | cons t rest =>
          simp only [join_cons_cons, String.toList_append, List.mem_append] at h
          rcases h with (hs | hbetween) | hrest
          · exact .inr ⟨s, List.mem_cons_self, hs⟩
          · exact .inl hbetween
          · obtain hbetween | ⟨u, hu, hc⟩ := ih hrest
            · exact .inl hbetween
            · exact .inr ⟨u, List.mem_cons_of_mem s hu, hc⟩

/-- A part stands behind the parts before it and what is between them. -/
theorem prefix_drop_join {i : Nat} {s : String} (h : parts[i]? = some s) :
    s.toList <+: (join between parts).toList.drop
      ((parts.take i).map fun part => part.length + between.length).sum := by
  induction parts generalizing i with
  | nil => simp at h
  | cons first rest ih =>
      cases i with
      | zero =>
          obtain rfl : first = s := by simpa using h
          cases rest with
          | nil => exact List.prefix_refl _
          | cons t rest =>
              rw [join_cons_cons, String.toList_append, String.toList_append,
                List.append_assoc]
              exact List.prefix_append _ _
      | succ i =>
          cases rest with
          | nil => simp at h
          | cons t rest =>
              have hskip : ∀ n, (join between (first :: t :: rest)).toList.drop
                  (first.length + between.length + n) =
                  (join between (t :: rest)).toList.drop n := by
                intro n
                rw [join_cons_cons, String.toList_append, String.toList_append,
                  ← String.length_toList, ← String.length_toList,
                  ← List.length_append, List.drop_length_add_append]
              rw [List.take_succ_cons, List.map_cons, List.sum_cons, hskip]
              exact ih (by simpa using h)

/-- Lines without a line break are found again behind each other. -/
theorem splitOn_lines {lines : List String}
    (h : ∀ line ∈ lines, '\n' ∉ line.toList) :
    (join "" (lines.map fun line => line ++ "\n")).toList.splitOn '\n' =
      lines.map String.toList ++ [[]] := by
  induction lines with
  | nil => rfl
  | cons line rest ih =>
      rw [List.forall_mem_cons] at h
      have hline :
          (join "" ((line :: rest).map fun line => line ++ "\n")).toList =
          line.toList ++
          '\n' :: (join "" (rest.map fun line => line ++ "\n")).toList := by
        simp [join_empty_cons]
      rw [hline, List.splitOn_append_cons_self_of_not_mem h.1, ih h.2,
        List.map_cons, List.cons_append]

end ReportQuery.Text
