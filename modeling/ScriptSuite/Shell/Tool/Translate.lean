import ScriptSuite.Shell.Pattern
import ScriptSuite.Shell.Printf
import ScriptSuite.Shell.Tool.Options
import ScriptSuite.Text.Find

/-!
# Translating characters

The tool that puts characters in the place of others, deletes them, or takes repetitions away.
-/

namespace ScriptSuite.Shell

namespace Translation

/-- A part of a set of characters. -/
inductive Item where
  /-- Characters one after the other. -/
  | chars (s : List Char)
  /-- The characters of a class. -/
  | named (name : String) (s : List Char)
  /-- A character as often as a set needs it. -/
  | filler (c : Char)

/-- The characters of a class, or none if there is no such class. -/
def classOf (name : List Char) : List Char :=
  let all := (List.range 256).map Char.ofNat
  let ranges := CharSet.named (String.ofList name)
  all.filter fun c => ranges.any fun (low, high) => low ≤ c && c ≤ high

/-- The character at the front of a set, and what follows it. -/
def charFrom (s : List Char) : Char × List Char :=
  match s with
  | '\\' :: d :: s' =>
    if isOctal d then
      let (t, rest) := escape (d :: s')
      (t.headD d, rest)
    else
      match escape (d :: s') with
      | ([c], rest) => if (c = '\\' && d != '\\') || d = 'e' then (d, s') else (c, rest)
      | _ => (d, s')
  | c :: s => (c, s)
  | [] => ('\\', [])

/-- The parts of a set, or what is wrong with it. -/
def items (steps : Nat) (s : List Char) : Except (List Char) (List Item) :=
  match steps with
  | 0 => .ok []
  | steps + 1 => do
    let range (whole : List Char) : Except (List Char) (List Item) := do
      let (low, rest) := charFrom whole
      match rest with
      | '-' :: b :: more =>
        let (high, behind) := charFrom (b :: more)
        if high < low then
          throw (Shell.chars "range-endpoints of '" ++ whole.take (whole.length - behind.length) ++
            Shell.chars "' are in reverse collating sequence order")
        let between := (List.range (high.toNat + 1 - low.toNat)).map fun i =>
          Char.ofNat (low.toNat + i)
        return .chars between :: (← items steps behind)
      | rest => return .chars [low] :: (← items steps rest)
    match s with
    | [] => return []
    | '[' :: ':' :: rest =>
      match Text.cut [':', ']'] rest with
      | some (name, behind) =>
        let members := classOf name
        if members.isEmpty then throw (Shell.chars "invalid character class '" ++ name ++ ['\''])
        return .named (String.ofList name) members :: (← items steps behind)
      | none => range s
    | '[' :: '=' :: c :: '=' :: ']' :: rest => return .chars [c] :: (← items steps rest)
    | '[' :: rest =>
      let (c, behind) := charFrom rest
      match behind with
      | '*' :: more =>
        let ds := more.takeWhile Char.isDigit
        match more.drop ds.length with
        | ']' :: rest =>
          let n := if ds.head? = some '0' then (digitsValue? 8 ds).getD 0 else decimal ds
          if n = 0 then return .filler c :: (← items steps rest)
          else return .chars (List.replicate n c) :: (← items steps rest)
        | _ => range s
      | _ => range s
    | s => range s

/-- The characters of a set that has to have a number of them. -/
def expanded (length : Nat) (set : List Item) : List Char :=
  let size (i : Item) : Nat := match i with
    | .chars s | .named _ s => s.length
    | .filler _ => 0
  let fixed := (set.map size).foldl (· + ·) 0
  set.flatMap fun
    | .chars s | .named _ s => s
    | .filler c => List.replicate (length - fixed) c

/-- Whether a class of another kind than upper and lower case stands in a set. -/
def hasOtherClass (set : List Item) : Bool :=
  set.any fun
    | .named name _ => name != "upper" && name != "lower"
    | _ => false

/-- A text in which repeated characters of a set stand once. -/
def squeeze (isIn : Char → Bool) : List Char → List Char
  | a :: b :: rest =>
    if a = b && isIn a then squeeze isIn (b :: rest) else a :: squeeze isIn (b :: rest)
  | s => s

end Translation

/-- Puts characters in the place of others, deletes them, or takes repetitions away. -/
def tr : Tool :=
  withOptions "tr" (.of "+cCdst" [("complement", 'c'), ("delete", 'd'), ("squeeze-repeats", 's'),
    ("truncate-set1", 't')]) 1 fun g input disk =>
    let deleting := g.has 'd'
    let squeezing := g.has 's'
    let advised (text : String) : Effect := usageMistake "tr" 1 (chars text) disk
    let wrong (text : List Char) : Effect :=
      { disk, status := 1, err := chars "tr: " ++ text ++ ['\n'] }
    let most := if deleting && !squeezing then 1 else 2
    match g.operands with
    | [] => advised "missing operand"
    | source :: others =>
      if others.isEmpty && !deleting && !squeezing then
        advised ("missing operand after '" ++ toString source ++
          "'\nTwo strings must be given when translating.")
      else if others.isEmpty && deleting && squeezing then
        advised ("missing operand after '" ++ toString source ++
          "'\nTwo strings must be given when both deleting and squeezing repeats.")
      else if most < g.operands.length then
        advised ("extra operand '" ++ toString ((g.operands[most]?).getD []) ++ "'" ++
          (if most = 1 then
              "\nOnly one string may be given when deleting without squeezing repeats."
            else ""))
      else
        let parse (s : List Char) := Translation.items (s.length + 1) s
        match parse source, others.mapM parse with
        | .error text, _ | _, .error text => wrong text
        | .ok first, .ok rest =>
          let given := Translation.expanded 0 first
          let complemented := g.has 'c' || g.has 'C'
          let all := (List.range 256).map Char.ofNat
          let first := if complemented then all.filter (!given.contains ·) else given
          let isFirst (c : Char) : Bool := given.contains c != complemented
          let second := rest.head?.map (Translation.expanded first.length)
          let translating := !deleting && second.isSome
          let warning :=
            if source.getLast? = some '\\' && source.dropLast.getLast? != some '\\' then
              chars "tr: warning: an unescaped backslash at end of string is not portable\n"
            else []
          if translating && second = some [] then
            wrong (chars "when not truncating set1, string2 must be non-empty")
          else if translating && rest.any Translation.hasOtherClass then
            wrong (chars ("when translating, the only character classes that may appear in\n" ++
              "string2 are 'upper' and 'lower'"))
          else
            let out :=
              if deleting then input.filter (!isFirst ·)
              else
                match second with
                | none => input
                | some target =>
                  let first := if g.has 't' then first.take target.length else first
                  let last := target.getLastD ' '
                  let padded := target ++ List.replicate (first.length - target.length) last
                  let table := (first.zip padded).foldl (fun (t : Array Char) (a, b) =>
                    t.setIfInBounds a.toNat b) (all.toArray)
                  input.map fun c => table.getD c.toNat c
            let out :=
              if squeezing then
                let isRepeated : Char → Bool := match second with
                  | some set => set.contains
                  | none => isFirst
                Translation.squeeze isRepeated out
              else out
            { disk, left := some [], out, err := warning }

end ScriptSuite.Shell
