/-!
# Sorted maps and sets

A finite map is the list of its entries, ascending by key, and a finite set the ascending list of
its members. The order is part of the type, so two maps with the same entries are equal, two sets
with the same members are, and to print one of them is to print its list.

## Main definitions

* `StrictOrder`: what is asked of the order: any two members can be compared, and comparing is
  transitive.
* `dictionaryLe`: lists compared at the first place where they differ.
* `SortedMap`: the maps, with `∅`, look-up and `alter`, the one operation that changes an entry.
* `SortedSet`: the sets, with `∅`, `insert`, `union` and membership.

## Main statements

* `SortedSet.mem_insert`, `SortedSet.mem_union`: what the operations do to membership.
-/

namespace ScriptSuite

/-! ### Orders -/

/-- Any two members can be compared, and comparing is transitive. -/
class StrictOrder (α : Type) [LT α] : Prop where
  /-- What is below a smaller member is below the larger one. -/
  lt_trans {a b c : α} : a < b → b < c → a < c
  /-- One of two members is the smaller one, or they are equal. -/
  lt_trichotomy (a b : α) : a < b ∨ a = b ∨ b < a

instance : StrictOrder String where
  lt_trans := String.lt_trans
  lt_trichotomy _ _ := Std.lt_trichotomy _ _

instance : StrictOrder UInt32 where
  lt_trans := UInt32.lt_trans
  lt_trichotomy _ _ := Std.lt_trichotomy _ _

/-- Whether a list stands before another one in a dictionary, or is equal to it. -/
def dictionaryLe {α : Type} [LT α] [DecidableLT α] : List α → List α → Bool
  | [], _ => true
  | _ :: _, [] => false
  | a :: l, b :: m => decide (a < b) || !decide (b < a) && dictionaryLe l m

/-! ### Maps -/

/-- A finite map, as the list of its entries in ascending order of the keys. -/
@[ext] structure SortedMap (κ ν : Type) [LT κ] where
  /-- The entries in ascending order of the keys. -/
  entries : List (κ × ν)
  /-- Each key is smaller than all later ones. -/
  sorted : entries.Pairwise (·.1 < ·.1)

namespace SortedMap

variable {κ ν : Type} [LT κ]

instance : EmptyCollection (SortedMap κ ν) := ⟨⟨[], List.Pairwise.nil⟩⟩

instance : Inhabited (SortedMap κ ν) := ⟨∅⟩

instance [DecidableEq κ] [DecidableEq ν] : DecidableEq (SortedMap κ ν) := fun s t =>
  decidable_of_iff (s.entries = t.entries) SortedMap.ext_iff.symm

/-- The number of entries. -/
def size (m : SortedMap κ ν) : Nat := m.entries.length

/-- The keys in ascending order. -/
def keys (m : SortedMap κ ν) : List κ := m.entries.map (·.1)

variable [DecidableEq κ]

/-- The value of a key in a list of entries. -/
def lookup (k : κ) : List (κ × ν) → Option ν
  | [] => none
  | e :: l => if e.1 = k then some e.2 else lookup k l

/-- The value of a key. -/
def get? (m : SortedMap κ ν) (k : κ) : Option ν := lookup k m.entries

variable [DecidableLT κ]

/-- The entries with the value of `k` computed anew from the old one. -/
def alterList (k : κ) (f : Option ν → ν) : List (κ × ν) → List (κ × ν)
  | [] => [(k, f none)]
  | e :: l =>
    if k < e.1 then (k, f none) :: e :: l
    else if k = e.1 then (k, f (some e.2)) :: l
    else e :: alterList k f l

theorem mem_keys_alterList {k x : κ} {f : Option ν → ν} {l : List (κ × ν)}
    (h : x ∈ (alterList k f l).map (·.1)) : x = k ∨ x ∈ l.map (·.1) := by
  induction l with
  | nil => simpa [alterList] using h
  | cons e l ih =>
    simp only [alterList] at h
    split at h
    · simpa using h
    · split at h
      · simp only [List.map_cons, List.mem_cons] at h ⊢
        rcases h with h | h
        · exact .inl h
        · exact .inr (.inr h)
      · simp only [List.map_cons, List.mem_cons] at h ⊢
        rcases h with h | h
        · exact .inr (.inl h)
        · rcases ih h with h | h
          · exact .inl h
          · exact .inr (.inr h)

variable [StrictOrder κ]

theorem pairwise_alterList {k : κ} {f : Option ν → ν} {l : List (κ × ν)}
    (h : l.Pairwise (·.1 < ·.1)) : (alterList k f l).Pairwise (·.1 < ·.1) := by
  induction l with
  | nil => simp [alterList]
  | cons e l ih =>
    have he : ∀ x ∈ l, e.1 < x.1 := fun x hx => List.rel_of_pairwise_cons h hx
    have hl := List.Pairwise.of_cons h
    simp only [alterList]
    split
    · rename_i hk
      refine List.pairwise_cons.2 ⟨fun x hx => ?_, h⟩
      rcases List.mem_cons.1 hx with rfl | hx
      · exact hk
      · exact StrictOrder.lt_trans hk (he x hx)
    · split
      · rename_i hk
        exact List.pairwise_cons.2 ⟨fun x hx => hk ▸ he x hx, hl⟩
      · rename_i hk hne
        refine List.pairwise_cons.2 ⟨fun x hx => ?_, ih hl⟩
        rcases mem_keys_alterList (List.mem_map_of_mem hx) with hx' | hx'
        · rcases StrictOrder.lt_trichotomy k e.1 with h | h | h
          · exact absurd h hk
          · exact absurd h hne
          · exact hx' ▸ h
        · obtain ⟨y, hy, hyx⟩ := List.mem_map.1 hx'
          exact hyx ▸ he y hy

/-- The map with the value of `k` computed anew from the old one, if there was one. -/
def alter (m : SortedMap κ ν) (k : κ) (f : Option ν → ν) : SortedMap κ ν :=
  ⟨alterList k f m.entries, pairwise_alterList m.sorted⟩

/-- The map with `v` as the value of `k`. -/
def insert (m : SortedMap κ ν) (k : κ) (v : ν) : SortedMap κ ν :=
  m.alter k fun _ => v

end SortedMap

/-! ### Sets -/

/-- A finite set, as the ascending list of its members. -/
@[ext] structure SortedSet (α : Type) [LT α] where
  /-- The members in ascending order. -/
  toList : List α
  /-- Each member is smaller than all later ones. -/
  sorted : toList.Pairwise (· < ·)

namespace SortedSet

variable {α : Type} [LT α]

instance : EmptyCollection (SortedSet α) := ⟨⟨[], List.Pairwise.nil⟩⟩

instance : Inhabited (SortedSet α) := ⟨∅⟩

instance [DecidableEq α] : DecidableEq (SortedSet α) := fun s t =>
  decidable_of_iff (s.toList = t.toList) SortedSet.ext_iff.symm

instance : Membership α (SortedSet α) := ⟨fun s a => a ∈ s.toList⟩

/-- The number of members. -/
def size (s : SortedSet α) : Nat := s.toList.length

@[simp] theorem not_mem_empty {a : α} : ¬a ∈ (∅ : SortedSet α) := List.not_mem_nil

variable [DecidableLT α] [DecidableEq α]

/-- The ascending list with one more member. -/
def insertList (a : α) : List α → List α
  | [] => [a]
  | b :: l => if a < b then a :: b :: l else if a = b then b :: l else b :: insertList a l

theorem mem_insertList {a x : α} {l : List α} : x ∈ insertList a l ↔ x = a ∨ x ∈ l := by
  induction l with
  | nil => simp [insertList]
  | cons b l ih =>
    simp only [insertList]
    split
    · simp
    · split
      · rename_i h; simp [h]
      · simp only [List.mem_cons, ih]
        constructor
        · rintro (h | h | h) <;> simp [h]
        · rintro (h | h | h) <;> simp [h]

variable [StrictOrder α]

theorem pairwise_insertList {a : α} {l : List α} (h : l.Pairwise (· < ·)) :
    (insertList a l).Pairwise (· < ·) := by
  induction l with
  | nil => simp [insertList]
  | cons b l ih =>
    have hb : ∀ x ∈ l, b < x := fun x hx => List.rel_of_pairwise_cons h hx
    have hl := List.Pairwise.of_cons h
    simp only [insertList]
    split
    · rename_i hab
      refine List.pairwise_cons.2 ⟨fun x hx => ?_, h⟩
      rcases List.mem_cons.1 hx with rfl | hx
      · exact hab
      · exact StrictOrder.lt_trans hab (hb x hx)
    · split
      · exact h
      · rename_i hab hne
        refine List.pairwise_cons.2 ⟨fun x hx => ?_, ih hl⟩
        rcases mem_insertList.1 hx with rfl | hx
        · rcases StrictOrder.lt_trichotomy x b with h | h | h
          · exact absurd h hab
          · exact absurd h hne
          · exact h
        · exact hb x hx

/-- The set with one more member. -/
def insert (s : SortedSet α) (a : α) : SortedSet α :=
  ⟨insertList a s.toList, pairwise_insertList s.sorted⟩

/-- The set of the members of a list. -/
def ofList (l : List α) : SortedSet α :=
  l.foldl insert ∅

/-- The members of both sets together. -/
def union (s t : SortedSet α) : SortedSet α :=
  t.toList.foldl insert s

@[simp] theorem mem_insert {a x : α} {s : SortedSet α} : x ∈ s.insert a ↔ x = a ∨ x ∈ s :=
  mem_insertList

theorem mem_foldl_insert {x : α} {s : SortedSet α} {l : List α} :
    x ∈ l.foldl insert s ↔ x ∈ s ∨ x ∈ l := by
  induction l generalizing s with
  | nil => simp
  | cons a l ih =>
    simp only [List.foldl_cons, ih, mem_insert, List.mem_cons]
    constructor
    · rintro ((h | h) | h) <;> simp [h]
    · rintro (h | h | h) <;> simp [h]

@[simp] theorem mem_union {x : α} {s t : SortedSet α} : x ∈ s.union t ↔ x ∈ s ∨ x ∈ t :=
  mem_foldl_insert

end SortedSet

end ScriptSuite
