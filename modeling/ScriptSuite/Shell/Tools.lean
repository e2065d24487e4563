import ScriptSuite.Shell.Printf
import ScriptSuite.Shell.Tool.Columns
import ScriptSuite.Shell.Tool.Compare
import ScriptSuite.Shell.Tool.Condition
import ScriptSuite.Shell.Tool.Copy
import ScriptSuite.Shell.Tool.Date
import ScriptSuite.Shell.Tool.Digest
import ScriptSuite.Shell.Tool.Dump
import ScriptSuite.Shell.Tool.Lines
import ScriptSuite.Shell.Tool.Listing
import ScriptSuite.Shell.Tool.Numbers
import ScriptSuite.Shell.Tool.Paths
import ScriptSuite.Shell.Tool.Search
import ScriptSuite.Shell.Tool.Sed
import ScriptSuite.Shell.Tool.Sort
import ScriptSuite.Shell.Tool.Translate

/-!
# The tools by name
-/

namespace ScriptSuite.Shell

/-- The tools that work on texts. -/
def textTool? (name : String) (inputIsFile : Bool) : Option Tool :=
  match name with
  | "base64" => some base64
  | "cat" => some cat
  | "cksum" => some cksum
  | "cmp" => some cmp
  | "comm" => some comm
  | "cut" => some cut
  | "diff" => some diff
  | "egrep" => some fun args => grep (['-', 'E'] :: args)
  | "expand" => some expandTabs
  | "expr" => some expr
  | "fgrep" => some fun args => grep (['-', 'F'] :: args)
  | "fold" => some fold
  | "grep" => some grep
  | "head" => some head
  | "join" => some joinFiles
  | "nl" => some nl
  | "od" => some od
  | "paste" => some paste
  | "rev" => some rev
  | "sed" => some sed
  | "seq" => some seq
  | "sort" => some sort
  | "tac" => some tac
  | "tail" => some tail
  | "tr" => some tr
  | "unexpand" => some unexpandTabs
  | "uniq" => some uniq
  | "wc" => some (wc inputIsFile)
  | "yes" => some yes
  | _ => none

/-- The tools that work on files and their names. -/
def fileTool? (name : String) : Option Tool :=
  match name with
  | "basename" => some basenames
  | "chmod" => some chmod
  | "cp" => some cp
  | "dirname" => some dirnames
  | "ln" => some ln
  | "ls" => some ls
  | "mkdir" => some mkdir
  | "mktemp" => some mktemp
  | "mv" => some mv
  | "readlink" => some readlink
  | "realpath" => some realpath
  | "rm" => some rm
  | "rmdir" => some rmdir
  | "stat" => some stat
  | "tee" => some tee
  | "touch" => some touch
  | "truncate" => some truncate
  | "unlink" => some rm
  | _ => none

/-- A tool that prints a text. -/
def saying (text : String) : Tool := fun _ _ disk => { disk, out := chars text ++ ['\n'] }

/-- Prints its arguments; with `-e` escapes in them are replaced, and with `-n` the line is not
ended. -/
def printArguments : Tool := fun args _ disk =>
  let isOption (a : List Char) : Bool :=
    match a with
    | '-' :: c :: s => (c :: s).all fun c => ['n', 'e', 'E'].contains c
    | _ => false
  let options := args.takeWhile isOption
  let letters := options.flatMap (·.drop 1)
  let text := Text.join [' '] (args.drop options.length)
  let escapes := (letters.reverse.find? fun c => c = 'e' || c = 'E') = some 'e'
  let (text, cut) := if escapes then unescape (text.length + 1) text else (text, false)
  { disk, out := text ++ if cut || letters.contains 'n' then [] else ['\n'] }

/-- Lets time pass. -/
def sleep : Tool := fun args _ disk =>
  match args.mapM milliseconds? with
  | some times => { disk, time := times.foldr (· + ·) 0 }
  | none =>
    let wrong := args.filter fun a => (milliseconds? a).isNone
    usageMistake "sleep" 1 (Text.join ['\n'] (wrong.map fun a =>
      chars "invalid time interval " ++ quoted a)) disk

/-- The tools that tell about the system, and those that do next to nothing. -/
def systemTool? (name : String) : Option Tool :=
  match name with
  | "arch" => some (saying "x86_64")
  | "date" => some date
  | "echo" => some printArguments
  | "hostname" => some (saying "localhost")
  | "id" => some fun args _ disk =>
    let letters := args.flatMap (·.drop 1)
    let text :=
      if letters.contains 'n' then "root\n"
      else if letters.isEmpty then "uid=0(root) gid=0(root) groups=0(root)\n"
      else "0\n"
    { disk, out := chars text }
  | "logname" | "whoami" => some (saying "root")
  | "nproc" => some (saying "1")
  | "md5sum" => some (digestTool "md5sum" Digest.md5)
  | "sha1sum" => some (digestTool "sha1sum" Digest.sha1)
  | "sha256sum" => some (digestTool "sha256sum" Digest.sha256)
  | "sleep" => some sleep
  | "sync" => some fun _ _ disk => { disk }
  | "tty" => some fun _ _ disk => { disk, out := chars "not a tty\n", status := 1 }
  | "uname" => some fun args _ disk =>
    { disk, out := chars (if args.contains ['-', 'm'] then "x86_64\n" else "Linux\n") }
  | _ => none

/-- The tool of a name. `inputIsFile` tells whether the input is that of a file. -/
def tool? (name : String) (inputIsFile : Bool) : Option Tool :=
  ((textTool? name inputIsFile).or (fileTool? name)).or (systemTool? name)

end ScriptSuite.Shell
