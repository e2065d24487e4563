import ScriptSuite.Shell.Awk.Record
import ScriptSuite.Shell.Awk.Syntax
import ScriptSuite.Shell.Awk.Token

/-!
# Reading programs that work on records

An expression is read level by level: a choice is made of alternatives, these of conditions that
hold together, and so on down to single values. Two values side by side are joined.

Where something is printed, a sign for "greater" outside of parentheses tells a file to print to.

## Main definitions

* `Awk.Reader`: reading tokens, which may fail.
* `Awk.Reader.expression`, `Awk.Reader.statement`: reading expressions and statements.
* `Awk.parse`: the program of a text.
-/

namespace ScriptSuite.Shell.Awk

/-- Reading tokens may fail. -/
abbrev Reader := StateT (List Lexeme) (Except Problem)

/-- What an expression may not have at its outermost level. -/
structure Limits where
  /-- Whether a sign for "greater" ends it. -/
  noGreater : Bool := false
  /-- Whether the word for membership ends it. -/
  noIn : Bool := false

namespace Reader

/-- The next token. -/
def peek : Reader (Option Token) := do return (← get).head?.map (·.token)

/-- The token behind the next one. -/
def peekSecond : Reader (Option Token) := do return (← get)[1]?.map (·.token)

/-- Passes a token. -/
def skip : Reader Unit := modify List.tail

/-- Fails at the next token. -/
def fail {α : Type} : Reader α := do
  match (← get).head? with
  | some l =>
    let near := if l.token == .lineEnd then chars "end of line" else l.text
    let text := chars "syntax error at or near " ++ near
    throw { line := l.line, message := text }
  | none => throw { line := 0, message := chars "unexpected end of file" }

/-- Passes a sign, if it comes next. -/
def sign? (s : String) : Reader Bool := do
  if (← peek) == some (.sign s) then
    skip
    return true
  else return false

/-- Passes a sign. -/
def expect (s : String) : Reader Unit := do
  unless ← sign? s do fail

/-- Passes a word, if it comes next. -/
def word? (s : String) : Reader Bool := do
  if (← peek) == some (.word s.toList) then
    skip
    return true
  else return false

/-- Passes line ends. -/
def skipLineEnds : Reader Unit :=
  modify fun ls => ls.dropWhile fun l => l.token == .lineEnd

/-- Passes line ends and semicolons. -/
def skipStatementEnds : Reader Unit :=
  modify fun ls => ls.dropWhile fun l => l.token == .lineEnd || l.token == .sign ";"

/-- The regular expression of a text. -/
def regex (s : List Char) : Reader Regex := do
  match Regex.parse .escaping true s with
  | .ok r => return r
  | .error p =>
    let line := ((← get).head?.map (·.line)).getD 1
    throw { line, message := regexComplaint p s }

/-- The operation of an assignment sign. -/
def assignment? (s : String) : Option (Option Operation) :=
  match s with
  | "=" => some none
  | "+=" => some (some .add)
  | "-=" => some (some .subtract)
  | "*=" => some (some .multiply)
  | "/=" => some (some .divide)
  | "%=" => some (some .remainder)
  | "^=" => some (some .power)
  | _ => none

/-- The operation of a sign of comparison. -/
def comparison? (l : Limits) (s : String) : Option Operation :=
  match s with
  | "<" => some .less
  | "<=" => some .atMost
  | "==" => some .same
  | "!=" => some .different
  | ">" => if l.noGreater then none else some .greater
  | ">=" => some .atLeast
  | _ => none

/-- The functions that every program has. -/
def standardNames : List String :=
  ["atan2", "close", "cos", "exp", "fflush", "gsub", "index", "int", "length", "log", "match",
    "mktime", "rand", "sin", "split", "sprintf", "sqrt", "srand", "strftime", "sub", "substr",
    "system", "systime", "tolower", "toupper"]

/-- Whether a token may start a value that is joined to the one in front of it. -/
def joins (t : Token) : Bool :=
  match t with
  | .number _ | .text _ | .regex _ | .call _ => true
  | .word s => !words.contains (String.ofList s) || s = "getline".toList
  | .sign s => ["(", "$", "!", "++", "--", "-", "+"].contains s
  | .lineEnd => false

mutual

/-- Reads an expression. -/
def expression (l : Limits) (steps : Nat) : Reader Expression :=
  match steps with
  | 0 => fail
  | steps + 1 => choice l steps

/-- Reads a choice between two values. -/
def choice (l : Limits) (steps : Nat) : Reader Expression :=
  match steps with
  | 0 => fail
  | steps + 1 => do
    let e ← alternative l steps
    if ← sign? "?" then
      let first ← expression l steps
      expect ":"
      return .choice e first (← expression l steps)
    else return e

/-- Reads conditions of which one has to hold. -/
def alternative (l : Limits) (steps : Nat) : Reader Expression :=
  match steps with
  | 0 => fail
  | steps + 1 => do
    let mut e ← conjunction l steps
    for _ in [0:steps] do
      if ← sign? "||" then
        skipLineEnds
        e := .either e (← conjunction l steps)
      else break
    return e

/-- Reads conditions all of which have to hold. -/
def conjunction (l : Limits) (steps : Nat) : Reader Expression :=
  match steps with
  | 0 => fail
  | steps + 1 => do
    let mut e ← membership l steps
    for _ in [0:steps] do
      if ← sign? "&&" then
        skipLineEnds
        e := .both e (← membership l steps)
      else break
    return e

/-- Reads a question for a key of an array, whose answer may be compared. -/
def membership (l : Limits) (steps : Nat) : Reader Expression :=
  match steps with
  | 0 => fail
  | steps + 1 => do
    let mut e ← likeness l steps
    for _ in [0:steps] do
      if !l.noIn && (← peek) == some (.word "in".toList) then
        skip
        match ← peek with
        | some (.word array) =>
          skip
          let keys := match e with
            | .several es => es
            | e => [e]
          e := .member keys array
        | _ => fail
      else
        let operation := match ← peek with
          | some (.sign s) => comparison? l s
          | _ => none
        match operation with
        | some operation =>
          skip
          e := .operate operation e (← joined l steps)
        | none => break
    return e

/-- Reads a question for a regular expression. -/
def likeness (l : Limits) (steps : Nat) : Reader Expression :=
  match steps with
  | 0 => fail
  | steps + 1 => do
    let mut e ← comparison l steps
    for _ in [0:steps] do
      if ← sign? "~" then e := .like true e (← comparison l steps)
      else if ← sign? "!~" then e := .like false e (← comparison l steps)
      else break
    return e

/-- Reads a comparison. -/
def comparison (l : Limits) (steps : Nat) : Reader Expression :=
  match steps with
  | 0 => fail
  | steps + 1 => do
    let mut e ← joined l steps
    for _ in [0:steps] do
      match ← peek with
      | some (.sign s) =>
        match comparison? l s with
        | some operation =>
          skip
          e := .operate operation e (← joined l steps)
        | none => break
      | _ => break
    return e

/-- Reads values side by side. A place in front of a sign of assignment is assigned to, whatever
stands in front of it. -/
def joined (l : Limits) (steps : Nat) : Reader Expression :=
  match steps with
  | 0 => fail
  | steps + 1 => do
    let mut e ← sum l steps
    if let .value p := e then
      if let some (.sign s) := ← peek then
        if let some operation := assignment? s then
          skip
          skipLineEnds
          return .assign operation p (← expression l steps)
    for _ in [0:steps] do
      match ← peek with
      | some t => if joins t then e := .operate .join e (← sum l steps) else break
      | none => break
    return e

/-- Reads a sum. -/
def sum (l : Limits) (steps : Nat) : Reader Expression :=
  match steps with
  | 0 => fail
  | steps + 1 => do
    let mut e ← product l steps
    for _ in [0:steps] do
      if ← sign? "+" then e := .operate .add e (← product l steps)
      else if ← sign? "-" then e := .operate .subtract e (← product l steps)
      else break
    return e

/-- Reads a product. -/
def product (l : Limits) (steps : Nat) : Reader Expression :=
  match steps with
  | 0 => fail
  | steps + 1 => do
    let mut e ← signed l steps
    for _ in [0:steps] do
      if ← sign? "*" then e := .operate .multiply e (← signed l steps)
      else if ← sign? "/" then e := .operate .divide e (← signed l steps)
      else if ← sign? "%" then e := .operate .remainder e (← signed l steps)
      else break
    return e

/-- Reads a value with a sign in front. -/
def signed (l : Limits) (steps : Nat) : Reader Expression :=
  match steps with
  | 0 => fail
  | steps + 1 => do
    if ← sign? "!" then return .no (← signed l steps)
    else if ← sign? "-" then return .negate (← signed l steps)
    else if ← sign? "+" then return .plus (← signed l steps)
    else piped l steps

/-- Reads a value, or a line that a command prints. -/
def piped (l : Limits) (steps : Nat) : Reader Expression :=
  match steps with
  | 0 => fail
  | steps + 1 => do
    let mut e ← power l steps
    for _ in [0:steps] do
      if (← peek) == some (.sign "|") && (← peekSecond) == some (.word "getline".toList) then
        skip
        skip
        e := .line .command (some e) (← place? steps)
      else break
    return e

/-- Reads a power. -/
def power (l : Limits) (steps : Nat) : Reader Expression :=
  match steps with
  | 0 => fail
  | steps + 1 => do
    let e ← stepped l steps
    if ← sign? "^" then
      if ← sign? "-" then return .operate .power e (.negate (← power l steps))
      else if ← sign? "+" then return .operate .power e (← power l steps)
      else if ← sign? "!" then return .operate .power e (.no (← power l steps))
      else return .operate .power e (← power l steps)
    else return e

/-- Reads a value that may be stepped up or down behind. -/
def stepped (l : Limits) (steps : Nat) : Reader Expression :=
  match steps with
  | 0 => fail
  | steps + 1 => do
    let e ← single l steps
    match e with
    | .value p =>
      if ← sign? "++" then return .step false 1 p
      else if ← sign? "--" then return .step false (-1) p
      else return e
    | e => return e

/-- Reads a place, if one comes next. -/
def place? (steps : Nat) : Reader (Option Place) :=
  match steps with
  | 0 => fail
  | steps + 1 => do
    match ← peek with
    | some (.sign "$") =>
      match ← single {} steps with
      | .value p => return some p
      | _ => fail
    | some (.word s) =>
      if words.contains (String.ofList s) || standardNames.contains (String.ofList s) then
        return none
      else
        match ← single {} steps with
        | .value p => return some p
        | _ => fail
    | _ => return none

/-- Reads expressions between commas, up to a closing sign. -/
def list (closing : String) (steps : Nat) : Reader (List Expression) :=
  match steps with
  | 0 => fail
  | steps + 1 => do
    skipLineEnds
    if ← sign? closing then return []
    let e ← expression {} steps
    skipLineEnds
    if ← sign? "," then
      skipLineEnds
      if (← peek) == some (.sign closing) then fail
      return e :: (← list closing steps)
    else
      expect closing
      return [e]

/-- Reads a single value. -/
def single (l : Limits) (steps : Nat) : Reader Expression :=
  match steps with
  | 0 => fail
  | steps + 1 => do
    match ← peek with
    | some (.number x) => skip; return .number x
    | some (.text s) => skip; return .text s
    | some (.regex s) => skip; return .record (← regex s)
    | some (.sign "(") =>
      skip
      match ← list ")" steps with
      | [] => fail
      | [e] =>
        -- a value in parentheses is no place
        return match e with
          | .value _ => .grouped e
          | e => e
      | es =>
        if (← peek) == some (.word "in".toList) then return .several es else fail
    | some (.sign "$") =>
      skip
      if ← sign? "++" then
        match ← single l steps with
        | .value p => return .value (.field (.step true 1 p))
        | _ => fail
      else if ← sign? "--" then
        match ← single l steps with
        | .value p => return .value (.field (.step true (-1) p))
        | _ => fail
      else if ← sign? "-" then return .value (.field (.negate (← single l steps)))
      else return .value (.field (← single l steps))
    | some (.sign "++") =>
      skip
      match ← single l steps with
      | .value p => return .step true 1 p
      | _ => fail
    | some (.sign "--") =>
      skip
      match ← single l steps with
      | .value p => return .step true (-1) p
      | _ => fail
    | some (.sign "-") => skip; return .negate (← single l steps)
    | some (.call s) =>
      let here ← get
      skip
      skip
      let arguments ← list ")" steps
      if standardNames.contains (String.ofList s) then
        standard (String.ofList s) (here.head?.map (·.line)) arguments
      else return .call s arguments
    | some (.word s) =>
      let name := String.ofList s
      if name = "getline" then
        skip
        let p ← place? steps
        if ← sign? "<" then return .line .file (some (← stepped l steps)) p
        else return .line .records none p
      else if standardNames.contains name then
        let here ← get
        skip
        if ← sign? "(" then standard name (here.head?.map (·.line)) (← list ")" steps)
        else if name = "length" || name = "fflush" || name = "rand" || name = "srand" ||
            name = "systime" then
          return .standard name []
        else fail
      else if words.contains name then fail
      else
        skip
        if ← sign? "[" then return .value (.element s (← list "]" steps))
        else return .value (.named s)
    | _ => fail
where
  /-- Checks the number of arguments of a function that every program has. -/
  standard (name : String) (line : Option Nat) (arguments : List Expression) :
      Reader Expression := do
    let n := arguments.length
    let fits : Bool := match name with
      | "rand" | "systime" => n = 0
      | "length" | "srand" | "fflush" => n ≤ 1
      | "close" | "cos" | "exp" | "int" | "log" | "mktime" | "sin" | "sqrt" | "system" | "tolower"
      | "toupper" => n = 1
      | "atan2" | "index" | "match" => n = 2
      | "gsub" | "split" | "sub" | "substr" => n = 2 || n = 3
      | "strftime" => n ≤ 3
      | _ => 0 < n
    if fits then return .standard name arguments
    else throw {
      line := line.getD 1
      message := chars s!"wrong number of arguments in call to {name}" }

end

/-! ### Statements -/

/-- What surrounds a statement. -/
structure Around where
  /-- Whether it stands in a loop. -/
  inLoop : Bool := false
  /-- Whether it stands in a function. -/
  inRoutine : Bool := false
  /-- Whether it is done for records. -/
  inRule : Bool := false

/-- The line of the next token. -/
def line : Reader Nat := do return ((← get).head?.map (·.line)).getD 1

/-- Fails with a text. -/
def refuse {α : Type} (text : String) : Reader α := do
  throw { line := ← line, message := chars text }

/-- Whether a statement may end in front of a token. -/
def endsStatement (t : Option Token) : Bool :=
  match t with
  | none | some .lineEnd => true
  | some (.sign s) => s = ";" || s = "\x7d"
  | _ => false

/-- Whether the values that are printed may end in front of a token. -/
def endsPrinted (t : Option Token) : Bool :=
  endsStatement t || t == some (.sign ">") || t == some (.sign ">>") || t == some (.sign "|")

/-- Passes the end of a statement. -/
def statementEnd : Reader Unit := do
  let t ← peek
  if !endsStatement t then fail
  unless t == some (.sign "\x7d") do
    skip
    skipLineEnds

/-- Reads expressions between commas, of which there may be none. -/
def values (l : Limits) (steps : Nat) : Reader (List Expression) := do
  let t ← peek
  if endsPrinted t then return []
  let mut es := [← expression l steps]
  for _ in [0:steps] do
    if ← sign? "," then
      skipLineEnds
      es := (← expression l steps) :: es
    else break
  return es.reverse

/-- Reads what is printed. Parentheses around all of it are no part of a value. -/
def printed (steps : Nat) : Reader (List Expression) := do
  let here ← get
  if ← sign? "(" then
    let inner : Option (List Expression) ← try
        let es ← list ")" steps
        let t ← peek
        pure (if endsPrinted t then some es else none)
      catch _ => pure none
    if let some es := inner then return es
    set here
  values { noGreater := true } steps

/-- Reads where output goes to. -/
def outlet? (steps : Nat) : Reader (Option (Outlet × Expression)) := do
  let outlet : Option Outlet :=
    match ← peek with
    | some (.sign ">") => some .file
    | some (.sign ">>") => some .append
    | some (.sign "|") => some .command
    | _ => none
  match outlet with
  | some o =>
    skip
    return some (o, ← expression {} steps)
  | none => return none

/-- Reads the keys in brackets, if some come next. -/
def keys? (steps : Nat) : Reader (Option (List Expression)) := do
  if ← sign? "[" then return some (← list "]" steps) else return none

/-- Reads a statement that has no others in it. -/
def simple (steps : Nat) : Reader Statement := do
  if ← word? "print" then
    let es ← printed steps
    return .print es (← outlet? steps)
  else if ← word? "printf" then
    let es ← printed steps
    if es.isEmpty then fail
    return .printf es (← outlet? steps)
  else if ← word? "delete" then
    match ← peek with
    | some (.word array) =>
      skip
      return .delete array (← keys? steps)
    | _ => fail
  else return .expression (← expression {} steps)

/-- Reads an expression in parentheses. -/
def condition (steps : Nat) : Reader Expression := do
  expect "("
  let e ← expression {} steps
  expect ")"
  skipLineEnds
  return e

/-- Reads an expression up to the end of its statement, if there is one. -/
def optional (steps : Nat) : Reader (Option Expression) := do
  if endsStatement (← peek) then return none else return some (← expression {} steps)

mutual

/-- Reads a statement. -/
def statement (a : Around) (steps : Nat) : Reader Statement :=
  match steps with
  | 0 => fail
  | steps + 1 => do
    let loop : Around := { a with inLoop := true }
    if ← sign? "\x7b" then
      let body ← statements a steps
      skipLineEnds
      return .block body
    else if ← sign? ";" then
      skipLineEnds
      return .block []
    else if ← word? "if" then
      let c ← condition steps
      let first ← statement a steps
      if ← word? "else" then
        skipLineEnds
        return .choice c first (some (← statement a steps))
      else return .choice c first none
    else if ← word? "while" then
      return .whileLoop (← condition steps) (← statement loop steps)
    else if ← word? "do" then
      skipLineEnds
      let body ← statement loop steps
      unless ← word? "while" do fail
      expect "("
      let c ← expression {} steps
      expect ")"
      statementEnd
      return .doLoop body c
    else if ← word? "for" then forStatement loop steps
    else if ← word? "next" then
      if !a.inRule then refuse "improper use of next"
      statementEnd
      return .next
    else if ← word? "nextfile" then
      if !a.inRule then refuse "improper use of next"
      statementEnd
      return .nextFile
    else if ← word? "exit" then
      let e ← optional steps
      statementEnd
      return .exit e
    else if ← word? "return" then
      if !a.inRoutine then refuse "return outside function body"
      let e ← optional steps
      statementEnd
      return .giveBack e
    else if ← word? "break" then
      if !a.inLoop then refuse "break statement outside of loop"
      statementEnd
      return .leave
    else if ← word? "continue" then
      if !a.inLoop then refuse "continue statement outside of loop"
      statementEnd
      return .again
    else
      let s ← simple steps
      statementEnd
      return s

/-- Reads what follows the word of a loop with a head. -/
def forStatement (a : Around) (steps : Nat) : Reader Statement :=
  match steps with
  | 0 => fail
  | steps + 1 => do
    expect "("
    match ((← get).take 4).map fun (l : Lexeme) => l.token with
    | [Token.word name, Token.word ['i', 'n'], Token.word array, Token.sign ")"] =>
      modify (List.drop 4)
      skipLineEnds
      return .each name array (← statement a steps)
    | _ =>
      let part (stop : String) : Reader (Option Statement) := do
        if ← sign? stop then return none
        let s ← simple steps
        expect stop
        return some s
      let start ← part ";"
      skipLineEnds
      let c ← if ← sign? ";" then pure none else do
        let e ← expression {} steps
        expect ";"
        pure (some e)
      skipLineEnds
      let step ← part ")"
      skipLineEnds
      return .forLoop start c step (← statement a steps)

/-- Reads statements up to a closing brace. -/
def statements (a : Around) (steps : Nat) : Reader (List Statement) :=
  match steps with
  | 0 => fail
  | steps + 1 => do
    skipLineEnds
    if ← sign? "\x7d" then return []
    if (← peek).isNone then throw { line := 0, message := chars "missing \x7d near end of file" }
    let s ← statement a steps
    return s :: (← statements a steps)

end

/-! ### Programs -/

/-- Reads the names of parameters, behind the opening parenthesis. -/
def parameters (steps : Nat) : Reader (List Name) :=
  match steps with
  | 0 => fail
  | steps + 1 => do
    skipLineEnds
    match ← peek with
    | some (.word name) =>
      if words.contains (String.ofList name) then fail
      skip
      skipLineEnds
      if ← sign? "," then return name :: (← parameters steps)
      else
        expect ")"
        return [name]
    | _ =>
      expect ")"
      return []

/-- Reads statements in braces. -/
def body (a : Around) (steps : Nat) : Reader Statement := do
  expect "\x7b"
  return .block (← statements a steps)

/-- Reads a function, behind its word. -/
def routine (steps : Nat) : Reader Routine := do
  match ← peek with
  | some (.word name) | some (.call name) =>
    skip
    expect "("
    let names ← parameters steps
    skipLineEnds
    return { name, parameters := names, body := ← body { inRoutine := true } steps }
  | _ => fail

/-- Reads a rule. -/
def rule (steps : Nat) : Reader Rule := do
  if ← word? "BEGIN" then return { pattern := .start, body := some (← body {} steps) }
  else if ← word? "END" then return { pattern := .finish, body := some (← body {} steps) }
  else
    let pattern : Pattern ←
      if (← peek) == some (.sign "\x7b") then pure .every
      else do
        let e ← expression {} steps
        if ← sign? "," then
          skipLineEnds
          pure (.range e (← expression {} steps))
        else pure (.holds e)
    if (← peek) == some (.sign "\x7b") then
      return { pattern, body := some (← body { inRule := true } steps) }
    else return { pattern, body := none }

/-- Reads a program. -/
def program (p : Program) (steps : Nat) : Reader Program :=
  match steps with
  | 0 => fail
  | steps + 1 => do
    skipStatementEnds
    if (← peek).isNone then return { rules := p.rules.reverse, routines := p.routines.reverse }
    let p ←
      if ← word? "function" then do
        let r ← routine steps
        pure { p with routines := r :: p.routines }
      else do
        let r ← rule steps
        if r.body.isNone && !endsStatement (← peek) then fail
        pure { p with rules := r :: p.rules }
    program p steps

end Reader

/-- The functions that tokens call, with their lines. -/
def called (ls : List Lexeme) : List (Name × Nat) :=
  ls.filterMap fun l =>
    match l.token with
    | .call s => if Reader.standardNames.contains (String.ofList s) then none else some (s, l.line)
    | _ => none

/-- The program of a text. -/
def parse (s : List Char) : Except Problem Program := do
  let ls ← tokens s
  let lastLine := (ls.getLast?.map (·.line)).getD 1
  match (Reader.program {} (20 * ls.length + 40)).run ls with
  | .error problem =>
    throw { problem with line := if problem.line = 0 then lastLine + 1 else problem.line }
  | .ok (p, _) =>
    if let some (name, _) := (called ls).find? fun c => !p.routines.any fun r => r.name = c.1 then
      throw { line := lastLine + 1, message := chars "function " ++ name ++ chars " never defined" }
    return p

end ScriptSuite.Shell.Awk
