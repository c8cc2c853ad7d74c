import Mathlib

/-!
The members of a list in the order of their first appearance, each of them once.
-/
namespace BulkSql

variable {α : Type} [BEq α] [LawfulBEq α]

theorem eraseDups_concat (as : List α) (a : α) :
    (as ++ [a]).eraseDups = if a ∈ as then as.eraseDups else as.eraseDups ++ [a] := by
  rw [List.eraseDups_append, List.cons_removeAll]
  by_cases known : a ∈ as <;> simp [known, List.eraseDups_cons]

theorem nodup_eraseDups (as : List α) : as.eraseDups.Nodup := by
  induction as using List.reverseRecOn with
  | nil => simp
  | append_singleton as a ih =>
    rw [eraseDups_concat]
    split
    · exact ih
    · next fresh => simpa using ih.concat (mt List.mem_eraseDups.1 fresh)

theorem eraseDups_of_nodup {as : List α} (h : as.Nodup) : as.eraseDups = as := by
  induction as using List.reverseRecOn with
  | nil => simp
  | append_singleton as a ih =>
    obtain ⟨fresh, once⟩ : a ∉ as ∧ as.Nodup := List.nodup_cons.1 (List.nodup_append_comm.1 h)
    rw [eraseDups_concat, if_neg fresh, ih once]

theorem eraseDups_append_cons {as : List α} {a : α} (known : a ∈ as) (bs : List α) :
    (as ++ a :: bs).eraseDups = (as ++ bs).eraseDups := by
  simp [List.eraseDups_append, List.cons_removeAll, known]

end BulkSql
