import Mathlib.Data.List.Sort
import ScriptSuite.Sorted

/-!
# Building sorted sets and maps anew

A member that is larger than all others is put at the end, and so is the entry of a key that is
larger than all others. So a set is what inserting its members one by one makes of the empty set,
and a map is what inserting its entries makes of the empty map. Changing an entry changes what is
found under its key, and nothing else.

There is one ascending list of given members, so a set is known by its members, and a map by what is
found under each key.

A dictionary orders all lists of letters that can be ordered: any two words can be compared, and
none but equal ones stand at the same place.

## Main results

* `SortedSet.ofList_toList`: a set from its members
* `SortedMap.foldl_insert_entries`: a map from its entries
* `SortedMap.get?_alter`: what is found in a map once an entry was changed
* `SortedMap.perm_insert`: the entries of a map once an entry was put into it
* `SortedSet.ext_mem`, `SortedMap.ext_get?`: when two sets are equal, and two maps
* `pairwise_mergeSort_dictionaryLe`: sorting different words
-/

namespace ScriptSuite

namespace StrictOrder

variable {α : Type} [LT α] [StrictOrder α] [Std.Irrefl (α := α) (· < ·)] {a b : α}

theorem not_lt_of_gt (h : b < a) : ¬ a < b := fun h' =>
  Std.Irrefl.irrefl a (StrictOrder.lt_trans h' h)

omit [StrictOrder α] in
theorem ne_of_gt (h : b < a) : a ≠ b := fun heq => Std.Irrefl.irrefl b (heq ▸ h)

end StrictOrder

namespace SortedSet

variable {α : Type} [LT α] [DecidableLT α] [DecidableEq α] [StrictOrder α]
  [Std.Irrefl (α := α) (· < ·)] {a : α} {l : List α}

theorem insertList_of_forall_lt (h : ∀ b ∈ l, b < a) : insertList a l = l ++ [a] := by
  induction l with
  | nil => rfl
  | cons b l ih =>
    rw [List.forall_mem_cons] at h
    rw [insertList, if_neg (StrictOrder.not_lt_of_gt h.1), if_neg (StrictOrder.ne_of_gt h.1),
      ih h.2, List.cons_append]

theorem toList_foldl_insert {s : SortedSet α} (h : (s.toList ++ l).Pairwise (· < ·)) :
    (l.foldl insert s).toList = s.toList ++ l := by
  induction l generalizing s with
  | nil => rw [List.foldl_nil, List.append_nil]
  | cons a l ih =>
    have hs : (s.insert a).toList = s.toList ++ [a] :=
      insertList_of_forall_lt fun b hb => (List.pairwise_append.1 h).2.2 b hb a List.mem_cons_self
    have hcat : s.toList ++ a :: l = (s.insert a).toList ++ l := by
      rw [hs, List.append_assoc, List.singleton_append]
    rw [hcat] at h
    rw [List.foldl_cons, ih h, hcat]

/-- **A set is made of its members.** -/
theorem ofList_toList (s : SortedSet α) : ofList s.toList = s :=
  SortedSet.ext (toList_foldl_insert (s := ∅) s.sorted)

end SortedSet

namespace SortedMap

variable {κ ν : Type} [LT κ] [DecidableLT κ] [DecidableEq κ] [StrictOrder κ]
  [Std.Irrefl (α := κ) (· < ·)] {k : κ} {l : List (κ × ν)}

theorem alterList_of_forall_lt {f : Option ν → ν} (h : ∀ e ∈ l, e.1 < k) :
    alterList k f l = l ++ [(k, f none)] := by
  induction l with
  | nil => rfl
  | cons e l ih =>
    rw [List.forall_mem_cons] at h
    rw [alterList, if_neg (StrictOrder.not_lt_of_gt h.1), if_neg (StrictOrder.ne_of_gt h.1), ih h.2,
      List.cons_append]

theorem entries_foldl_insert {m : SortedMap κ ν} (h : (m.entries ++ l).Pairwise (·.1 < ·.1)) :
    (l.foldl (fun m e => m.insert e.1 e.2) m).entries = m.entries ++ l := by
  induction l generalizing m with
  | nil => rw [List.foldl_nil, List.append_nil]
  | cons e l ih =>
    have hm : (m.insert e.1 e.2).entries = m.entries ++ [e] :=
      alterList_of_forall_lt fun d hd => (List.pairwise_append.1 h).2.2 d hd e List.mem_cons_self
    have hcat : m.entries ++ e :: l = (m.insert e.1 e.2).entries ++ l := by
      rw [hm, List.append_assoc, List.singleton_append]
    rw [hcat] at h
    rw [List.foldl_cons, ih h, hcat]

/-- **A map is made of its entries.** -/
theorem foldl_insert_entries (m : SortedMap κ ν) :
    m.entries.foldl (fun m e => m.insert e.1 e.2) ∅ = m :=
  SortedMap.ext (entries_foldl_insert (m := ∅) m.sorted)

end SortedMap

/-! ### Looking up a key -/

namespace SortedMap

variable {κ ν : Type} [LT κ] [DecidableEq κ] {k k' : κ} {f : Option ν → ν} {l : List (κ × ν)}

omit [LT κ] in
theorem lookup_eq_none_iff : lookup k l = none ↔ ∀ e ∈ l, e.1 ≠ k := by
  induction l with
  | nil => simp [lookup]
  | cons e l ih =>
    rw [lookup, List.forall_mem_cons]
    split
    · next he => simp [he]
    · next he => rw [ih, and_iff_right he]

/-- The keys of a map are those under which something is found. -/
theorem mem_keys_iff {m : SortedMap κ ν} : k ∈ m.keys ↔ (m.get? k).isSome = true := by
  rw [Option.isSome_iff_ne_none, get?, ne_eq, lookup_eq_none_iff, keys, List.mem_map]
  simp

variable [DecidableLT κ]

theorem lookup_alterList_of_ne (h : k' ≠ k) : lookup k' (alterList k f l) = lookup k' l := by
  have hne : k ≠ k' := fun heq => h heq.symm
  induction l with
  | nil => exact if_neg hne
  | cons e l ih =>
    rw [alterList]
    split
    · rw [lookup, if_neg hne]
    · split
      · next he => rw [lookup, lookup, if_neg hne, if_neg (he ▸ hne)]
      · rw [lookup, lookup, ih]

variable [StrictOrder κ] [Std.Irrefl (α := κ) (· < ·)]

theorem lookup_alterList_self (h : l.Pairwise (·.1 < ·.1)) :
    lookup k (alterList k f l) = some (f (lookup k l)) := by
  induction l with
  | nil => exact if_pos rfl
  | cons e l ih =>
    rw [alterList]
    split
    · next hlt =>
      -- All keys of the list are larger, so there was nothing under this one.
      have hnone : lookup k (e :: l) = none := by
        refine lookup_eq_none_iff.2 (List.forall_mem_cons.2 ⟨StrictOrder.ne_of_gt hlt, ?_⟩)
        exact fun d hd =>
          StrictOrder.ne_of_gt (StrictOrder.lt_trans hlt (List.rel_of_pairwise_cons h hd))
      rw [lookup, if_pos rfl, hnone]
    · split
      · next heq => rw [lookup, if_pos rfl, lookup, if_pos heq.symm]
      · next hne => rw [lookup, lookup, if_neg (Ne.symm hne), if_neg (Ne.symm hne), ih h.of_cons]

/-- **What is found in a map once an entry was changed.** -/
theorem get?_alter (m : SortedMap κ ν) (k k' : κ) (f : Option ν → ν) :
    (m.alter k f).get? k' = if k' = k then some (f (m.get? k)) else m.get? k' := by
  split
  · next h =>
    subst h
    exact lookup_alterList_self m.sorted
  · next h => exact lookup_alterList_of_ne h

end SortedMap

/-! ### Equal sets and maps -/

/-- **A set is known by its members.** -/
theorem SortedSet.ext_mem {α : Type} [LT α] [StrictOrder α] [Std.Irrefl (α := α) (· < ·)]
    {s t : SortedSet α} (h : ∀ a, a ∈ s ↔ a ∈ t) : s = t := by
  have : Std.Antisymm (α := α) (· < ·) := ⟨fun _ _ hab hba =>
    absurd hab (StrictOrder.not_lt_of_gt hba)⟩
  exact SortedSet.ext (s.sorted.eq_of_mem_iff t.sorted h)

namespace SortedMap

variable {κ ν : Type} [LT κ] [DecidableEq κ] [Std.Irrefl (α := κ) (· < ·)] {k : κ} {v : ν}
  {l : List (κ × ν)}

theorem lookup_eq_some_iff (h : l.Pairwise (·.1 < ·.1)) : lookup k l = some v ↔ (k, v) ∈ l := by
  induction l with
  | nil => simp [lookup]
  | cons e l ih =>
    rw [lookup, List.mem_cons]
    split
    · next he =>
      -- The later keys are larger than this one.
      have hrest : (k, v) ∉ l := fun hmem =>
        StrictOrder.ne_of_gt (List.rel_of_pairwise_cons h hmem) he.symm
      rw [or_iff_left hrest, Option.some_inj, ← he, Prod.ext_iff, and_iff_right rfl, eq_comm]
    · next he => rw [ih h.of_cons, or_iff_right fun heq => he (congrArg Prod.fst heq).symm]

/-- The entries of a map are what is found in it. -/
theorem mem_entries_iff {m : SortedMap κ ν} : (k, v) ∈ m.entries ↔ m.get? k = some v :=
  (lookup_eq_some_iff m.sorted).symm

/-- An entry that is put into a map takes the place of the one of the same key. -/
theorem perm_insert [DecidableLT κ] [StrictOrder κ] (m : SortedMap κ ν) (k : κ) (v : ν) :
    (m.insert k v).entries.Perm ((k, v) :: m.entries.filter fun e => e.1 ≠ k) := by
  have hall {l : List (κ × ν)} (h : ∀ e ∈ l, k < e.1) : (l.filter fun e => e.1 ≠ k) = l :=
    List.filter_eq_self.2 fun e he => decide_eq_true (StrictOrder.ne_of_gt (h e he))
  have hlist {l : List (κ × ν)} (h : l.Pairwise (·.1 < ·.1)) :
      (alterList k (fun _ => v) l).Perm ((k, v) :: l.filter fun e => e.1 ≠ k) := by
    induction l with
    | nil => exact .refl _
    | cons e l ih =>
      have hrest : ∀ d ∈ l, e.1 < d.1 := fun d hd => List.rel_of_pairwise_cons h hd
      rw [alterList]
      split
      · next hlt =>
        rw [hall (List.forall_mem_cons.2 ⟨hlt, fun d hd => StrictOrder.lt_trans hlt (hrest d hd)⟩)]
      · split
        · next heq =>
          rw [List.filter_cons_of_neg (by simp [heq]), hall (heq ▸ hrest)]
        · next hne =>
          rw [List.filter_cons_of_pos (by simpa using Ne.symm hne)]
          exact ((ih h.of_cons).cons e).trans (.swap ..)
  exact hlist m.sorted

/-- **A map is known by what is found under each key.** -/
theorem ext_get? [StrictOrder κ] {m n : SortedMap κ ν} (h : ∀ k, m.get? k = n.get? k) : m = n := by
  have : Std.Irrefl fun d e : κ × ν => d.1 < e.1 := ⟨fun e => Std.Irrefl.irrefl e.1⟩
  have : Std.Antisymm fun d e : κ × ν => d.1 < e.1 := ⟨fun _ _ hde hed =>
    absurd hde (StrictOrder.not_lt_of_gt hed)⟩
  refine SortedMap.ext (m.sorted.eq_of_mem_iff n.sorted fun ⟨k, v⟩ => ?_)
  rw [mem_entries_iff, mem_entries_iff, h]

end SortedMap

/-! ### Words in a dictionary -/

section Dictionary

variable {α : Type} [LT α] [DecidableLT α] [StrictOrder α] [Std.Irrefl (α := α) (· < ·)] {a b : α}
  {l m n : List α}

theorem dictionaryLe_cons_iff :
    dictionaryLe (a :: l) (b :: m) = true ↔ a < b ∨ a = b ∧ dictionaryLe l m = true := by
  rw [dictionaryLe, Bool.or_eq_true, Bool.and_eq_true, Bool.not_eq_true', decide_eq_true_iff,
    decide_eq_false_iff_not]
  constructor
  · rintro (h | ⟨hba, h⟩)
    · exact Or.inl h
    · rcases StrictOrder.lt_trichotomy a b with hab | rfl | hab
      · exact Or.inl hab
      · exact Or.inr ⟨rfl, h⟩
      · exact absurd hab hba
  · rintro (h | ⟨rfl, h⟩)
    · exact Or.inl h
    · exact Or.inr ⟨Std.Irrefl.irrefl a, h⟩

theorem dictionaryLe_total (l m : List α) : (dictionaryLe l m || dictionaryLe m l) = true := by
  rw [Bool.or_eq_true]
  induction l generalizing m with
  | nil => exact Or.inl rfl
  | cons a l ih =>
    cases m with
    | nil => exact Or.inr rfl
    | cons b m =>
      rw [dictionaryLe_cons_iff, dictionaryLe_cons_iff]
      rcases StrictOrder.lt_trichotomy a b with hab | rfl | hab
      · exact Or.inl (Or.inl hab)
      · exact (ih m).imp (fun h => Or.inr ⟨rfl, h⟩) fun h => Or.inr ⟨rfl, h⟩
      · exact Or.inr (Or.inl hab)

theorem dictionaryLe_trans (hlm : dictionaryLe l m = true) (hmn : dictionaryLe m n = true) :
    dictionaryLe l n = true := by
  induction l generalizing m n with
  | nil => rfl
  | cons a l ih =>
    cases m with
    | nil => exact absurd hlm Bool.false_ne_true
    | cons b m =>
      cases n with
      | nil => exact absurd hmn Bool.false_ne_true
      | cons c n =>
        rw [dictionaryLe_cons_iff] at hlm hmn ⊢
        rcases hlm with hab | ⟨rfl, hlm⟩
        · rcases hmn with hbc | ⟨rfl, -⟩
          · exact Or.inl (StrictOrder.lt_trans hab hbc)
          · exact Or.inl hab
        · rcases hmn with hbc | ⟨rfl, hmn⟩
          · exact Or.inl hbc
          · exact Or.inr ⟨rfl, ih hlm hmn⟩

theorem dictionaryLe_antisymm (hlm : dictionaryLe l m = true) (hml : dictionaryLe m l = true) :
    l = m := by
  induction l generalizing m with
  | nil =>
    cases m with
    | nil => rfl
    | cons b m => exact absurd hml Bool.false_ne_true
  | cons a l ih =>
    cases m with
    | nil => exact absurd hlm Bool.false_ne_true
    | cons b m =>
      rw [dictionaryLe_cons_iff] at hlm hml
      rcases hlm with hab | ⟨rfl, hlm⟩
      · rcases hml with hba | ⟨rfl, -⟩
        · exact absurd hba (StrictOrder.not_lt_of_gt hab)
        · exact absurd hab (Std.Irrefl.irrefl b)
      · have hml := (hml.resolve_left (Std.Irrefl.irrefl a)).2
        rw [ih hlm hml]

/-- **Different words are sorted strictly.** -/
theorem pairwise_mergeSort_dictionaryLe {words : List (List α)} (h : words.Nodup) :
    (words.mergeSort dictionaryLe).Pairwise fun l m =>
      dictionaryLe l m = true ∧ dictionaryLe m l = false := by
  have hsorted : (words.mergeSort dictionaryLe).Pairwise fun l m => dictionaryLe l m = true :=
    @List.pairwise_mergeSort _ dictionaryLe (fun _ _ _ => dictionaryLe_trans) dictionaryLe_total
      words
  have hnodup : (words.mergeSort dictionaryLe).Nodup := (List.mergeSort_perm _ _).nodup_iff.2 h
  refine (hsorted.and hnodup).imp fun {l m} hlm => ⟨hlm.1, ?_⟩
  rw [Bool.eq_false_iff]
  intro hml
  exact hlm.2 (dictionaryLe_antisymm hlm.1 hml)

end Dictionary

end ScriptSuite
