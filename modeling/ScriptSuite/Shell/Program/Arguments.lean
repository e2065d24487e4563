import ScriptSuite.Shell.Program.Basic
import ScriptSuite.Text.Find

/-!
# Building argument lists

The program that reads items from its input and starts another program with them as arguments: with
as many at a time as fit, with a given number of them, or with one of them in the place of a mark.

## Main definitions

* `Shell.Item`: an item with whether it ends a line.
* `Shell.readItems`: the items of a text.
* `Shell.xargs`: the program.
-/

namespace ScriptSuite.Shell

/-- An item of the input. -/
structure Item where
  /-- The text. -/
  text : List Char
  /-- Whether a line ends behind it. -/
  endsLine : Bool

/-- Why a text cannot be cut into items: a quote is not closed. -/
structure OpenQuote where
  /-- The quote. -/
  quote : Char

/-- Reads an item that stands between blanks: quotes and backslashes take away the meaning of what
they quote. The item is none if there was nothing but blanks; `quote` is the quote that is open. -/
def readItem (byLine : Bool) (started : Bool) (quote : Option Char) (text : List Char) :
    List Char → Except OpenQuote (Option (List Char) × List Char)
  | [] =>
    match quote with
    | some quote => .error { quote }
    | none => .ok (if started then some text.reverse else none, [])
  | c :: rest =>
    match quote with
    | some q =>
      if c = q then readItem byLine true none text rest
      else if c = '\n' then .error { quote := q }
      else readItem byLine true (some q) (c :: text) rest
    | none =>
      if c = '\n' then .ok (if started then some text.reverse else none, c :: rest)
      else if (c = ' ' || c = '\t') && !byLine then
        if started then .ok (some text.reverse, c :: rest) else readItem byLine false none text rest
      else if (c = ' ' || c = '\t') && !started then readItem byLine false none text rest
      else if c = '\'' || c = '"' then readItem byLine true (some c) text rest
      else if c = '\\' then
        match rest with
        | d :: rest => readItem byLine true none (d :: text) rest
        | [] => readItem byLine true none (c :: text) []
      else readItem byLine true none (c :: text) rest

/-- The items of a text. A blank in front of a line end joins the line with the next one. -/
def readItems (byLine : Bool) (steps : Nat) (s : List Char) : Except OpenQuote (List Item) :=
  match steps with
  | 0 => .ok []
  | steps + 1 => do
    match s with
    | [] => return []
    | '\n' :: rest => readItems byLine steps rest
    | s =>
      match ← readItem byLine false none [] s with
      | (none, rest) => readItems byLine steps rest
      | (some text, rest) =>
        let endsLine := match rest with
          | [] | '\n' :: _ => true
          | _ => false
        return { text, endsLine } :: (← readItems byLine steps rest)

/-- The items of a text that end in a character. -/
def readEndedItems (stop : Char) (s : List Char) : List Item :=
  let texts := Text.splitOn [stop] s
  let texts := if texts.getLast? = some [] then texts.dropLast else texts
  texts.map fun text => { text, endsLine := true }

/-- Items in groups of a number of lines. -/
def groupsOfLines (count : Nat) (items : List Item) : List (List (List Char)) :=
  let (groups, last, _) := items.foldl (fun (groups, group, lines) item =>
    let group := item.text :: group
    let lines := if item.endsLine then lines + 1 else lines
    if lines = count then (group.reverse :: groups, [], 0) else (groups, group, lines))
    (([], [], 0) : List (List (List Char)) × List (List Char) × Nat)
  (if last.isEmpty then groups else last.reverse :: groups).reverse

/-- Items in groups of a number. -/
def groupsOf (count steps : Nat) (items : List (List Char)) : List (List (List Char)) :=
  match steps with
  | 0 => []
  | steps + 1 =>
    if items.isEmpty then [] else items.take count :: groupsOf count steps (items.drop count)

/-- A text with another one in the place of a mark. -/
def replaceMark (mark value : List Char) (steps : Nat) (s : List Char) : List Char :=
  match steps with
  | 0 => s
  | steps + 1 =>
    if mark.isEmpty then s
    else
      match s with
      | [] => []
      | c :: rest =>
        if mark.isPrefixOf (c :: rest) then
          value ++ replaceMark mark value steps ((c :: rest).drop mark.length)
        else c :: replaceMark mark value steps rest

/-- The options of the program. -/
def xargsForms : OptionForms :=
  let forms := OptionForms.of "+0a:d:E:e::i::I:l::L:n:oprs:tP:x" [("null", '0'), ("arg-file", 'a'),
    ("delimiter", 'd'), ("replace", 'i'), ("max-lines", 'l'), ("max-args", 'n'),
    ("no-run-if-empty", 'r'), ("verbose", 't'), ("max-procs", 'P'), ("interactive", 'p'),
    ("exit", 'x'), ("max-chars", 's')]
  forms

/-- The character that ends items. -/
def itemEnd? (g : Given) : Option Char :=
  match g.lastOf? ['0', 'd'] with
  | some '0' => some '\x00'
  | some _ =>
    match (g.value? 'd').getD [] with
    | '\\' :: 'n' :: _ => some '\n'
    | '\\' :: 't' :: _ => some '\t'
    | '\\' :: '0' :: _ => some '\x00'
    | c :: _ => some c
    | [] => none
  | none => none

/-- A field as it is shown before a program is started. -/
def shownField (field : List Char) : List Char := quotedIfNeeded field

/-- Starts a program for one group of arguments after the other: the status is changed by those that
fail, and some failures end it all. -/
def startEach (host : Host) (tells : Bool) (status : Nat) : List (List (List Char)) → Action Unit
  | [] => setStatus status
  | fields :: rest => do
    if tells then write 2 (Text.join [' '] (fields.map shownField) ++ ['\n'])
    match ← host.start fields with
    | some f =>
      write 2 (chars "xargs: " ++ fields.headD [] ++ chars s!": {f.reason}\n")
      setStatus (if f = .missing then 127 else 126)
    | none =>
      let ended := (← get).status
      if ended = 255 then
        write 2 (chars "xargs: " ++ fields.headD [] ++ chars ": exited with status 255; aborting\n")
        setStatus 124
      else if 128 < ended then
        write 2 (chars "xargs: " ++ fields.headD [] ++
          chars s!": terminated by signal {ended - 128}\n")
        setStatus 125
      else startEach host tells (if ended = 0 then status else 123) rest

/-- Starts a program with the items of the input as arguments. -/
def xargs : Program := fun host args => do
  match xargsForms.read args with
  | .error mistake =>
    write 2 (chars "xargs: " ++ mistake.message ++ '\n' :: helpAdvice "xargs")
    setStatus 1
  | .ok g =>
    let s ← get
    let source : Except DiskFailure (List Char) := match g.value? 'a' with
      | some path => (s.disk.read (toString path)).map ofBytes
      | none => .ok s.input
    let mode := g.lastOf? ['I', 'i', 'L', 'l', 'n']
    let mark? : Option (List Char) := match mode with
      | some 'I' => g.value? 'I'
      | some 'i' => some (match g.value? 'i' with
        | some [] | none => ['\x7b', '\x7d']
        | some mark => mark)
      | _ => none
    match source with
    | .error f =>
      write 2 (chars "xargs: Cannot open input file " ++ quoted ((g.value? 'a').getD []) ++
        chars s!": {f.reason}\n")
      setStatus 1
    | .ok text =>
      if (g.value? 'a').isNone then modify fun s => { s with input := [] }
      let items : Except OpenQuote (List Item) := match itemEnd? g with
        | some stop => .ok (readEndedItems stop text)
        | none => readItems mark?.isSome (2 * text.length + 2) text
      match items with
      | .error e =>
        let kind := if e.quote = '"' then "double" else "single"
        write 2 (chars s!"xargs: unmatched {kind} quote; by default quotes are special to " ++
          chars "xargs unless you use the -0 option\n")
        setStatus 1
      | .ok items =>
        let items := match g.value? 'E' with
          | some stop => if stop.isEmpty then items else items.takeWhile fun i => i.text != stop
          | none => items
        let command := if g.operands.isEmpty then [chars "echo"] else g.operands
        let texts := items.map (·.text)
        let number (c : Char) : Nat := max 1 (decimal ((g.value? c).getD ['1']))
        let calls : List (List (List Char)) :=
          match mark?, mode with
          | some mark, _ => texts.map fun text =>
            command.map fun field => replaceMark mark text (field.length + 1) field
          | none, some 'L' => (groupsOfLines (number 'L') items).map (command ++ ·)
          | none, some 'l' => (groupsOfLines (number 'l') items).map (command ++ ·)
          | none, some 'n' => (groupsOf (number 'n') texts.length texts).map (command ++ ·)
          | none, _ => if texts.isEmpty then [] else [command ++ texts]
        let calls := if calls.isEmpty && mark?.isNone && !g.has 'r' then [command] else calls
        inSubshell do
          modify fun s => { s with input := [] }
          startEach host (g.has 't') 0 calls
        modify fun t => { t with input := if (g.value? 'a').isNone then [] else s.input }

end ScriptSuite.Shell
