import ScriptSuite.Shell.Arithmetic
import ScriptSuite.Shell.Tool.Mode

/-!
# Conditions

A condition is told in a few words: about one argument, about two with a sign between them, or put
together from others. What is no condition has a complaint.
-/

namespace ScriptSuite.Shell.Test

/-- Whether a condition about one argument holds; none if the sign is not known. -/
def unary? (d : Disk) (op : String) (arg : List Char) : Option Bool :=
  let tree := (d.get (toString arg)).toOption
  let way := (d.locate (toString arg)).toOption
  match op with
  | "-n" => some (!arg.isEmpty)
  | "-z" => some arg.isEmpty
  | "-e" => some (tree.isSome || arg = chars "/dev/null")
  | "-f" => some (tree.any (!·.isDir))
  | "-d" => some (tree.any (·.isDir))
  | "-r" | "-w" => some (tree.isSome || arg = chars "/dev/null")
  | "-c" => some (arg = chars "/dev/null")
  | "-s" => some (tree.any fun
      | .file bytes _ => !bytes.isEmpty
      | .dir _ => true)
  | "-x" => some (tree.any fun
      | .file _ runnable => runnable
      | .dir _ => true)
  | "-h" | "-L" => some (way.any fun w => (d.noteOf w).link.isSome)
  | "-u" => some (way.any fun w => (d.modeOf w) &&& 0o4000 != 0)
  | "-g" => some (way.any fun w => (d.modeOf w) &&& 0o2000 != 0)
  | "-k" => some (way.any fun w => (d.modeOf w) &&& 0o1000 != 0)
  | "-t" | "-p" | "-S" | "-b" => some false
  | "-O" | "-G" => some tree.isSome
  | _ => none

/-- Whether a condition about two arguments holds; none if the sign is not known. -/
def binary? (d : Disk) (op : String) (a b : List Char) : Option (Except (List Char) Bool) :=
  let ways : Option (List String × List String) := do
    return (← (d.locate (toString a)).toOption, ← (d.locate (toString b)).toOption)
  let number (s : List Char) : Except (List Char) Int :=
    match spacedInteger? s with
    | some n => .ok n
    | none => .error (chars "Illegal number: " ++ s)
  let compare (f : Int → Int → Bool) : Option (Except (List Char) Bool) :=
    some do return f (← number a) (← number b)
  match op with
  | "=" => some (.ok (a = b))
  | "!=" => some (.ok (a != b))
  | "<" => some (.ok (decide (a < b)))
  | ">" => some (.ok (decide (b < a)))
  | "-eq" => compare (· == ·)
  | "-ne" => compare (· != ·)
  | "-lt" => compare (· < ·)
  | "-le" => compare (· ≤ ·)
  | "-gt" => compare (· > ·)
  | "-ge" => compare (· ≥ ·)
  | "-nt" =>
    some (.ok (ways.any fun (v, w) => decide ((d.noteOf w).changed < (d.noteOf v).changed)))
  | "-ot" =>
    some (.ok (ways.any fun (v, w) => decide ((d.noteOf v).changed < (d.noteOf w).changed)))
  | "-ef" => some (.ok (ways.any fun (v, w) => v = w))
  | _ => none

/-- Whether a condition holds, or the complaint about it. -/
def holds (d : Disk) (steps : Nat) (args : List (List Char)) : Except (List Char) Bool :=
  match steps with
  | 0 => .error []
  | steps + 1 =>
    let unexpected (arg : List Char) : Except (List Char) Bool :=
      .error (arg ++ chars ": unexpected operator")
    match args with
    | [] => .ok false
    | [a] => .ok (!a.isEmpty)
    | [op, a] =>
      if op = ['!'] then .ok a.isEmpty
      else
        match unary? d (toString op) a with
        | some b => .ok b
        | none =>
          if (binary? d (toString a) [] []).isSome then .error (a ++ chars ": argument expected")
          else unexpected op
    | [a, op, b] =>
      match binary? d (toString op) a b with
      | some r => r
      | none =>
        if op = ['-', 'a'] then .ok (!a.isEmpty && !b.isEmpty)
        else if op = ['-', 'o'] then .ok (!a.isEmpty || !b.isEmpty)
        else if a = ['!'] then (holds d steps [op, b]).map (!·)
        else if a = ['('] && b = [')'] then .ok (!op.isEmpty)
        else unexpected a
    | a :: rest =>
      let cut (sep : List Char) : Option (List (List Char) × List (List Char)) :=
        (rest.findIdx? (· = sep)).map fun i => (args.take (i + 1), args.drop (i + 2))
      match cut ['-', 'o'] with
      | some (l, r) => do return (← holds d steps l) || (← holds d steps r)
      | none =>
        match cut ['-', 'a'] with
        | some (l, r) => do return (← holds d steps l) && (← holds d steps r)
        | none =>
          if a = ['!'] then (holds d steps rest).map (!·)
          else if a = ['('] && args.getLast? = some [')'] then holds d steps rest.dropLast
          else if (binary? d (toString (rest.headD [])) [] []).isSome then
            unexpected (rest.tail.headD a)
          else if (unary? d (toString a) []).isSome then unexpected (rest.headD a)
          else unexpected a

end ScriptSuite.Shell.Test
