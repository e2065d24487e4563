import ScriptSuite.Shell.Tool.Files

/-!
# Modes

The mode of a place tells who may read it, write to it and run it: nine bits for the owner, the
group and all others, with three more in front. A mode is changed by a number, or by clauses that
name whose bits are added, taken away or set.

## Main definitions

* `Disk.modeOf`, `Disk.withMode`: the mode of a place.
* `Shell.Mode.change?`: the mode behind a change.
* `Shell.Mode.text`: a mode in letters.
-/

namespace ScriptSuite

/-- The mode of a place. -/
def Disk.modeOf (d : Disk) (way : List String) : Nat :=
  match (d.noteOf way).mode, d.tree.at? way with
  | some mode, _ => mode
  | none, some (.file _ runnable) => if runnable then 0o755 else 0o644
  | none, _ => 0o755

/-- The disk with another mode of a place. A file may be run if anybody may run it. -/
def Disk.withMode (d : Disk) (way : List String) (mode : Nat) : Disk :=
  let d := d.withNote way { d.noteOf way with mode := some mode }
  match d.tree.at? way with
  | some (.file bytes _) =>
    { d with tree := FileTree.put (.file bytes (mode &&& 0o111 != 0)) way d.tree }
  | _ => d

namespace Shell

namespace Mode

/-- The bits of a letter for everybody. -/
def bitsOf (isRunnable : Bool) (mode : Nat) (c : Char) : Option Nat :=
  match c with
  | 'r' => some 0o444
  | 'w' => some 0o222
  | 'x' => some 0o111
  | 'X' => some (if isRunnable then 0o111 else 0)
  | 's' => some 0o6000
  | 't' => some 0o1000
  | 'u' => some ((mode >>> 6 &&& 7) * 0o111)
  | 'g' => some ((mode >>> 3 &&& 7) * 0o111)
  | 'o' => some ((mode &&& 7) * 0o111)
  | _ => none

/-- The bits of those that are named. -/
def bitsOfOwners (owners : List Char) : Nat :=
  owners.foldl (fun bits c => bits ||| match c with
    | 'u' => 0o4700
    | 'g' => 0o2070
    | 'o' => 0o1007
    | _ => 0o7777) 0

/-- Whether a letter names owners. -/
def isOwner (c : Char) : Bool := ['u', 'g', 'o', 'a'].contains c

/-- Whether a sign starts a change. -/
def isSign (c : Char) : Bool := ['+', '-', '='].contains c

/-- The mode behind the changes for some owners. -/
def changes? (isDir : Bool) (owners : Nat) (steps mode : Nat) (s : List Char) : Option Nat :=
  match steps with
  | 0 => none
  | steps + 1 =>
    match s with
    | [] => some mode
    | sign :: rest => do
      if !isSign sign then none
      else
        let letters := rest.takeWhile (!isSign ·)
        let isRunnable := isDir || mode &&& 0o111 != 0
        let bits ← letters.foldlM (fun bits c => (bitsOf isRunnable mode c).map (bits ||| ·)) 0
        let bits := bits &&& owners
        let next := match sign with
          | '+' => mode ||| bits
          | '-' => mode - (mode &&& bits)
          | _ => (mode - (mode &&& owners)) ||| bits
        changes? isDir owners steps next (rest.drop letters.length)

/-- The mode behind a change. Without owners a change is made for everybody, but the group and the
others do not get the right to write. -/
def change? (isDir : Bool) (mode : Nat) (s : List Char) : Option Nat :=
  if !s.isEmpty && s.all fun c => '0' ≤ c && c ≤ '7' then
    let n := s.foldl (fun n c => 8 * n + (c.toNat - 48)) 0
    if n ≤ 0o7777 then some n else none
  else if s.isEmpty then none
  else
    (Text.splitOn [','] s).foldlM (fun mode clause =>
      let owners := clause.takeWhile isOwner
      let rest := clause.drop owners.length
      let bits := if owners.isEmpty then 0o7755 else bitsOfOwners owners
      if rest.isEmpty then none else changes? isDir bits (rest.length + 1) mode rest) mode

/-- The nine letters of a mode. -/
def text (mode : Nat) : List Char :=
  let has (bit : Nat) : Bool := mode &&& bit != 0
  let three (shift special : Nat) (c : Char) : List Char :=
    let x := has (1 <<< shift)
    [if has (4 <<< shift) then 'r' else '-', if has (2 <<< shift) then 'w' else '-',
      if has special then (if x then c else c.toUpper) else if x then 'x' else '-']
  three 6 0o4000 's' ++ three 3 0o2000 's' ++ three 0 0o1000 't'

/-- The digits of a mode, filled up with zeros. -/
def octal (width mode : Nat) : List Char :=
  let ds := Nat.toDigits 8 mode
  List.replicate (width - ds.length) '0' ++ ds

end Mode

mutual

/-- The ways in a tree, each directory in front of what is in it. -/
def waysIn (way : List String) : FileTree → List (List String)
  | .file .. => [way]
  | .dir entries => way :: waysInAll way entries

/-- The ways in the entries of a directory. -/
def waysInAll (way : List String) : List (String × FileTree) → List (List String)
  | [] => []
  | (name, t) :: rest => waysIn (way ++ [name]) t ++ waysInAll way rest

end

/-- Changes who may do what with files. -/
def chmod : Tool := fun args input disk =>
  let forms := OptionForms.of "Rcvf" [("recursive", 'R'), ("changes", 'c'), ("verbose", 'v'),
    ("silent", 'f'), ("quiet", 'f')]
  let forms := { forms with words := forms.words ++ [("reference", '1', OptionValue.required)] }
  -- a mode that starts with a dash is no option
  let isMode (arg : List Char) : Bool :=
    match arg with
    | '-' :: c :: _ => ['r', 'w', 'x', 'X', 's', 't', 'u', 'g', 'o', '='].contains c
    | _ => false
  let front := args.takeWhile (!isMode ·)
  let args := if front.length < args.length && !front.contains ['-', '-'] &&
      front.all (fun a => a.head? = some '-') then
    front ++ ['-', '-'] :: args.drop front.length else args
  (withOptions "chmod" forms 1 fun g _ disk =>
    match g.operands with
    | [] => usageMistake "chmod" 1 (chars "missing operand") disk
    | [mode] => usageMistake "chmod" 1 (chars "missing operand after " ++ quoted mode) disk
    | mode :: paths =>
      if (Mode.change? false 0o644 mode).isNone then
        usageMistake "chmod" 1 (chars "invalid mode: " ++ quoted mode) disk
      else
        let change : PlaceChange := fun d path => do
          let way ← orBecause "cannot access " path (d.locate (toString path))
          let t := (d.tree.at? way).getD (.dir [])
          let ways := if g.has 'R' then waysIn way t else [way]
          return ways.foldl (fun (d, told) w =>
            let before := d.modeOf w
            let isDir := (d.tree.at? w).any (·.isDir)
            let after := (Mode.change? isDir before mode).getD before
            let named := path ++ (w.drop way.length).flatMap fun name => '/' :: ofString name
            let both (m : Nat) : List Char := Mode.octal 4 m ++ chars " (" ++ Mode.text m ++ [')']
            let account :=
              if before != after && (g.has 'c' || g.has 'v') then
                chars "mode of " ++ quoted named ++ chars " changed from " ++ both before ++
                  chars " to " ++ both after ++ ['\n']
              else if g.has 'v' then
                chars "mode of " ++ quoted named ++ chars " retained as " ++ both after ++ ['\n']
              else []
            (d.withMode w after, told ++ account)) (d, [])
        changer "chmod" change paths disk) args input disk

end Shell

end ScriptSuite
