import ScriptSuite.Json.Record
import ScriptSuite.Proofs.Json.Grammar

/-!
# Reading back what was written

A value is written as a document and read back from it; the two go together if the document is well
formed, is not `null`, and is read as the value. Then an absent value, which is left out or read
from `null`, is told from every value that is there.

A record is given by its *slots*: the names of its fields, each with its document if there is one to
write. The fields of a record are found by name, so what is read from a field depends on its slot
alone.

## Main definitions

* `Json.IsCodec`: writing and reading that go together
* `Json.ofSlots`, `Json.slot?`: the members of a record, and the document in a slot
* `Json.Fields.IsOf`: the fields that hold what is in the slots

## Main results

* `Json.isCodec_text`, `Json.isCodec_word32`, `Json.isCodec_word64`, `Json.IsCodec.list`: plain
  values
* `Json.exists_fields?_record`: the fields of a record
* `Json.IsCodec.record`: records
-/

namespace ScriptSuite.Json

variable {α : Type} {write : α → Json} {read : Json → Option α}

/-! ### Plain values -/

theorem proper_ofString (s : String) : (ofString s).Proper := .str (isBody_escape _)

theorem proper_ofNat (n : Nat) : (ofNat n).Proper := .num (isNumber_toDigits n)

theorem text?_ofString (s : String) : (ofString s).text? = some s := by
  rw [ofString, text?, unescape?_escape, Option.map_some, String.ofList_toList]

theorem nat?_ofNat {n bound : Nat} (h : n < bound) : (ofNat n).nat? bound = some n :=
  Text.decimalBelow?_toDigits h

/-- Writing and reading go together: what is written is well formed and not `null`, and is read
back. -/
structure IsCodec (write : α → Json) (read : Json → Option α) : Prop where
  /-- What is written is well formed. -/
  proper : ∀ a, (write a).Proper
  /-- What is written stands for a value. -/
  ne_null : ∀ a, write a ≠ .null
  /-- What is written is read back. -/
  read_write : ∀ a, read (write a) = some a

theorem isCodec_text : IsCodec ofString text? where
  proper := proper_ofString
  ne_null _ := Json.noConfusion
  read_write := text?_ofString

theorem isCodec_word32 : IsCodec (fun n : UInt32 => ofNat n.toNat) word32? where
  proper n := proper_ofNat n.toNat
  ne_null _ := Json.noConfusion
  read_write n := by
    rw [word32?, nat?_ofNat n.toNat_lt_size, Option.map_some, UInt32.ofNat_toNat]

theorem isCodec_word64 : IsCodec (fun n : UInt64 => ofNat n.toNat) word64? where
  proper n := proper_ofNat n.toNat
  ne_null _ := Json.noConfusion
  read_write n := by
    rw [word64?, nat?_ofNat n.toNat_lt_size, Option.map_some, UInt64.ofNat_toNat]

theorem mapM_map_eq_some {β : Type} {f : β → Option α} {g : α → β} (h : ∀ a, f (g a) = some a)
    (l : List α) : (l.map g).mapM f = some l := by
  induction l with
  | nil => rfl
  | cons a l ih =>
    rw [List.map_cons, List.mapM_cons, h, ih]
    rfl

/-- Lists are written item by item. -/
theorem IsCodec.list (h : IsCodec write read) :
    IsCodec (fun l => .arr (l.map write)) (listOf? read) where
  proper _ := .arr (List.forall_mem_map.2 fun a _ => h.proper a)
  ne_null _ := Json.noConfusion
  read_write l := mapM_map_eq_some h.read_write l

theorem IsCodec.proper_of_mem (h : IsCodec write read) (o : Option α) :
    ∀ v ∈ o.map write, v.Proper := by
  rintro v hv
  obtain ⟨a, -, rfl⟩ := Option.map_eq_some_iff.1 hv
  exact h.proper a

/-! ### Slots -/

variable {slots : List (String × Option Json)} {names : List String} {name : String}

/-- The members of a record with the given slots. -/
def ofSlots (slots : List (String × Option Json)) : List (String × Json) :=
  slots.flatMap fun s => field? s.1 s.2

/-- The document in the slot of a name, if there is one. -/
def slot? (slots : List (String × Option Json)) (name : String) : Option Json :=
  (slots.find? fun s => s.1 = name).bind (·.2)

theorem slot?_append_of_not_mem {front : List (String × Option Json)}
    (h : name ∉ front.map (·.1)) : slot? (front ++ slots) name = slot? slots name := by
  have hnone : front.find? (fun s => s.1 = name) = none := by
    rw [List.find?_eq_none]
    intro s hs heq
    exact h (of_decide_eq_true heq ▸ List.mem_map_of_mem hs)
  rw [slot?, List.find?_append, hnone, Option.none_or, slot?]

theorem ofSlots_cons_none : ofSlots ((name, none) :: slots) = ofSlots slots := rfl

theorem ofSlots_cons_some {v : Json} :
    ofSlots ((name, some v) :: slots) = (name, v) :: ofSlots slots := rfl

theorem map_ofSlots_sublist (slots : List (String × Option Json)) :
    ((ofSlots slots).map (·.1)).Sublist (slots.map (·.1)) := by
  induction slots with
  | nil => exact .slnil
  | cons s slots ih =>
    obtain ⟨name, _ | v⟩ := s
    · exact .cons name ih
    · exact .cons_cons name ih

/-- A member is looked up by the name of its slot. -/
theorem find?_ofSlots (hnodup : (slots.map (·.1)).Nodup) (name : String) :
    ((ofSlots slots).find? fun m => m.1 = name).map (·.2) = slot? slots name := by
  induction slots with
  | nil => rfl
  | cons s slots ih =>
    obtain ⟨n, v⟩ := s
    obtain ⟨hn', hrest⟩ := List.nodup_cons.1 hnodup
    by_cases hn : n = name
    · subst hn
      rw [slot?, List.find?_cons_of_pos (by simp)]
      cases v with
      | some v => rw [ofSlots_cons_some, List.find?_cons_of_pos (by simp)]; rfl
      | none =>
        have hnone : (ofSlots slots).find? (fun m => m.1 = n) = none := by
          rw [List.find?_eq_none]
          intro m hm heq
          rw [decide_eq_true_eq] at heq
          exact hn' ((map_ofSlots_sublist slots).subset (heq ▸ List.mem_map_of_mem hm))
        rw [ofSlots_cons_none, hnone]
        rfl
    · rw [slot?, List.find?_cons_of_neg (by simpa using hn)]
      cases v with
      | some v =>
        rw [ofSlots_cons_some, List.find?_cons_of_neg (by simpa using hn)]
        exact ih hrest
      | none => exact ih hrest

/-! ### The fields of a record -/

theorem proper_record {members : List (String × Json)} (h : ∀ m ∈ members, m.2.Proper) :
    (record members).Proper :=
  .obj (List.forall_mem_map.2 fun m _ => isBody_escape m.1.toList) (List.forall_mem_map.2 h)

theorem proper_record_ofSlots (h : ∀ s ∈ slots, ∀ v ∈ s.2, v.Proper) :
    (record (ofSlots slots)).Proper := by
  refine proper_record fun m hm => ?_
  obtain ⟨⟨name, v⟩, hs, hm⟩ := List.mem_flatMap.1 hm
  obtain ⟨w, hw, rfl⟩ := Option.map_eq_some_iff.1 (Option.mem_toList.1 hm)
  exact h _ hs w hw

theorem members?_record (members : List (String × Json)) :
    (record members).members? = some members :=
  mapM_map_eq_some (fun m => by simp [unescape?_escape]) members

theorem hasRepeats_eq_false {l : List String} (h : l.Nodup) : hasRepeats l = false := by
  induction l with
  | nil => rfl
  | cons a l ih =>
    obtain ⟨ha, hl⟩ := List.nodup_cons.1 h
    rw [hasRepeats, ih hl, Bool.or_false]
    simpa using ha

/-- The fields hold what is in the slots of the names. -/
structure Fields.IsOf (fs : Fields) (names : List String) (slots : List (String × Option Json)) :
    Prop where
  /-- The record was written as an object. -/
  positional_eq : fs.positional = false
  /-- A field holds what is in its slot. -/
  get?_eq : ∀ name ∈ names, fs.get? name = slot? slots name

/-- **The fields of a record** hold what is in its slots. -/
theorem exists_fields?_record (slots : List (String × Option Json)) (names : List String)
    (hnodup : (slots.map (·.1)).Nodup) :
    ∃ fs : Fields, (record (ofSlots slots)).fields? names = some fs ∧ fs.IsOf names slots := by
  have hknown : hasRepeats
      (((ofSlots slots).filter fun m => names.contains m.1).map (·.1)) = false :=
    hasRepeats_eq_false
      ((((List.filter_sublist).map _).trans (map_ofSlots_sublist slots)).nodup hnodup)
  refine ⟨⟨(ofSlots slots).filter fun m => names.contains m.1, false⟩, ?_, rfl,
    fun name hname => ?_⟩
  · have hmembers := members?_record (ofSlots slots)
    rw [record] at hmembers ⊢
    rw [fields?, hmembers, Option.bind_eq_bind, Option.bind_some, if_neg (by rw [hknown]; decide)]
    · rfl
    · exact fun _ => Json.noConfusion
  · have hfind : (fun m : String × Json =>
        decide (names.contains m.1 = true ∧ decide (m.1 = name) = true)) =
        fun m => decide (m.1 = name) := by
      funext m
      by_cases hm : m.1 = name
      · simp [hm, hname]
      · simp [hm]
    rw [Fields.get?, List.find?_filter, hfind, find?_ofSlots hnodup]

/-- A field that is always written, with any reader that understands what is written. -/
theorem Fields.IsOf.required?_eq {fs : Fields} {v : Json} {a : α} (hfs : fs.IsOf names slots)
    (name : String) (hname : name ∈ names) (hslot : slot? slots name = some v)
    (hread : read v = some a) : fs.required? name read = some a := by
  rw [Fields.required?, hfs.get?_eq name hname, hslot, Option.bind_some, hread]

section Fields

variable {fs : Fields} (h : IsCodec write read) (hfs : fs.IsOf names slots) (name : String)

include h hfs

/-- A field that is always written. -/
theorem IsCodec.required?_eq (a : α) (hname : name ∈ names)
    (hslot : slot? slots name = some (write a)) : fs.required? name read = some a :=
  hfs.required?_eq name hname hslot (h.read_write a)

omit hfs in
theorem IsCodec.optional?_write (a : α) : Json.optional? read (write a) = some (some a) := by
  rw [Json.optional?, h.read_write]
  · rfl
  · exact h.ne_null a

/-- A field that is left out for none. -/
theorem IsCodec.optional?_eq (o : Option α) (hname : name ∈ names)
    (hslot : slot? slots name = o.map write) : fs.optional? name read = some o := by
  rw [Fields.optional?, hfs.get?_eq name hname, hslot, hfs.positional_eq]
  cases o with
  | none => rfl
  | some a => exact h.optional?_write a

/-- A field that is left out for none and has none for its default. -/
theorem IsCodec.defaultedOptional?_eq (o : Option α) (hname : name ∈ names)
    (hslot : slot? slots name = o.map write) : fs.defaultedOptional? name read = some o := by
  rw [Fields.defaultedOptional?, Fields.defaulted?, hfs.get?_eq name hname, hslot]
  cases o with
  | none => rfl
  | some a => exact h.optional?_write a

end Fields

/-- **Records** are read back if their fields are. -/
theorem IsCodec.record (slots : α → List (String × Option Json)) (names : List String)
    {readFields : Fields → Option α} (hnodup : names.Nodup)
    (hnames : ∀ a, (slots a).map (·.1) = names)
    (hproper : ∀ a, ∀ s ∈ slots a, ∀ v ∈ s.2, v.Proper)
    (hread : ∀ a fs, fs.IsOf names (slots a) → readFields fs = some a) :
    IsCodec (fun a => .record (ofSlots (slots a))) fun j => (j.fields? names).bind readFields where
  proper a := proper_record_ofSlots (hproper a)
  ne_null _ := Json.noConfusion
  read_write a := by
    obtain ⟨fs, hfs, hof⟩ := exists_fields?_record (slots a) names ((hnames a).symm ▸ hnodup)
    rw [hfs, Option.bind_some, hread a fs hof]

/-! ### Tagged values -/

theorem tag?_ofString (s : String) : (ofString s).tag? = some s := by
  have hvariant : (ofString s).variant? = some (s, none) := by
    show (ofString s).text?.map _ = _
    rw [text?_ofString]
    rfl
  rw [tag?, hvariant]

theorem variant?_record (name : String) (v : Json) :
    (record [(name, v)]).variant? = some (name, some v) := by
  show (record [(name, v)]).members?.bind _ = _
  rw [members?_record]
  rfl

end ScriptSuite.Json
