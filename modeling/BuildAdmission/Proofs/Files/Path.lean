import BuildAdmission.Files.Path
import Mathlib.Data.List.DropRight

namespace BuildAdmission.FilePath

variable {dir name : FilePath}

theorem splitText_slash (a b : String) :
    splitText '/' (a ++ "/" ++ b) = splitText '/' a ++ splitText '/' b := by
  have split : (a ++ "/" ++ b).toList = a.toList ++ '/' :: b.toList := by
    rw [String.toList_append, String.toList_append, List.append_assoc]
    rfl
  rw [splitText, split, List.splitOn_append_cons_of_beq _ _ (by decide), List.map_append]
  rfl

theorem steps_empty : steps "" = [] := by decide

theorem steps_slash (a b : FilePath) : steps (a ++ "/" ++ b) = steps a ++ steps b := by
  rw [steps, splitText_slash, List.filter_append, List.map_append]
  rfl

theorem eq_append_slash (h : dir.endsInSlash = true) : ∃ a : String, dir = a ++ "/" := by
  refine ⟨.ofList dir.toList.dropLast, String.ext ?_⟩
  rw [String.toList_append, String.toList_ofList]
  exact (List.dropLast_append_getLast? _ (of_decide_eq_true h)).symm

theorem steps_join (dir name : FilePath) : (dir.join name).steps = dir.steps ++ name.steps := by
  unfold join
  split
  · next h =>
    rcases h with rfl | slash
    · rw [String.empty_append, steps_empty, List.nil_append]
    · obtain ⟨a, rfl⟩ := eq_append_slash slash
      have bare := steps_slash a ""
      rw [String.append_empty, steps_empty, List.append_nil] at bare
      rw [bare, steps_slash]
  · exact steps_slash dir name

/-- A name is one step, unless it stands for a place. -/
theorem steps_name (whole : '/' ∉ name.toList) (some : name ≠ "") (here : name ≠ ".")
    (up : name ≠ "..") : steps name = [.name name] := by
  have single : name.toList.splitOn '/' = [name.toList] := by
    apply List.splitOnP_eq_singleton
    intro c hc
    exact beq_eq_false_iff_ne.2 (ne_of_mem_of_not_mem hc whole)
  rw [steps, splitText, single]
  simp [some, Step.ofText, here, up]

theorem endsInSlash_join (whole : '/' ∉ name.toList) (some : name ≠ "") :
    (dir.join name).endsInSlash = false := by
  have last (front : String) : endsInSlash (front ++ name) = false := by
    unfold endsInSlash
    rw [decide_eq_false_iff_not, String.toList_append,
      List.getLast?_append_of_ne_nil _ (by simpa using some)]
    intro slash
    exact whole (List.mem_of_getLast? slash)
  unfold join
  split
  · exact last dir
  · exact last (dir ++ "/")

end BuildAdmission.FilePath
