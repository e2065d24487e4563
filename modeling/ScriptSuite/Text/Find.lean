/-!
# Finding a text in a text

`Text.cut` looks for the first occurrence of a text and returns what stands on its two sides; the
other searches are built on it. `Text.splitOn` cuts at every occurrence from left to right, so
that occurrences never overlap.
-/

namespace ScriptSuite.Text

/-- What stands before and behind the first occurrence of `needle`, if there is one. -/
def cut (needle : List Char) : List Char → Option (List Char × List Char)
  | [] => if needle.isEmpty then some ([], []) else none
  | c :: s =>
    if needle.isPrefixOf (c :: s) then some ([], (c :: s).drop needle.length)
    else (cut needle s).map fun (before, behind) => (c :: before, behind)

/-- Whether `needle` occurs. -/
def contains (needle s : List Char) : Bool :=
  (cut needle s).isSome

theorem contains_append_append {before needle behind : List Char} :
    contains needle (before ++ needle ++ behind) = true := by
  induction before with
  | nil =>
    have h : needle.isPrefixOf (needle ++ behind) = true := by simp
    rw [List.nil_append]
    generalize needle ++ behind = s at h
    cases s with
    | nil => simp_all [contains, cut]
    | cons c s => simp only [contains, cut, if_pos h, Option.isSome_some]
  | cons c s ih =>
    simp only [contains, List.cons_append, cut] at ih ⊢
    split
    · rfl
    · simpa using ih

/-- The text with `value` in the place of the first occurrence of `needle`. -/
def replaceFirst (needle value s : List Char) : List Char :=
  match cut needle s with
  | some (before, behind) => before ++ value ++ behind
  | none => s

/-- The parts between the occurrences of `sep`, taken from left to right; `sep` is not empty. -/
def splitOn (sep : List Char) : List Char → List (List Char)
  | [] => [[]]
  | c :: s =>
    if sep.isPrefixOf (c :: s) then [] :: splitOn sep (s.drop (sep.length - 1))
    else
      match splitOn sep s with
      | [] => [[c]]
      | p :: ps => (c :: p) :: ps
termination_by s => s.length
decreasing_by all_goals (simp only [List.length_drop, List.length_cons]; omega)

/-- What stands before and behind the last occurrence of a character, if there is one. -/
def cutLast (c : Char) (s : List Char) : Option (List Char × List Char) :=
  let behind := s.reverse.takeWhile (· != c)
  if behind.length = s.length then none
  else some (s.take (s.length - behind.length - 1), behind.reverse)

/-- A text with every backslash turned into a slash. -/
def forwardSlashes (s : List Char) : List Char :=
  s.map fun c => if c = '\\' then '/' else c

/-- The texts one behind the other, with `sep` between neighbours. -/
def join (sep : List Char) (parts : List (List Char)) : List Char :=
  List.intercalate sep parts

/-- Whether `needle` occurs in a string. -/
def occursIn (needle s : String) : Bool :=
  contains needle.toList s.toList

end ScriptSuite.Text
