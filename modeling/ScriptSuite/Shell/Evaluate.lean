import ScriptSuite.Shell.Builtin
import ScriptSuite.Shell.Expansion

/-!
# Running shell scripts

To run a command, its words are expanded first: parameters, outputs of commands and expressions are
put in their places, and the result is cut into fields. The first field names a function, a command
of the shell, or a program.

All of this is recursion over the commands, but loops and functions repeat commands, so every
function gets a number of steps that is an upper bound for the depth of its recursion. A script that
uses up all steps is taken for one that never ends.

## Main definitions

* `Shell.fieldsOf`: the fields of words.
* `Shell.perform`: runs a command.
* `Shell.script`: runs a script.
-/

namespace ScriptSuite.Shell

/-- Where streams lead once some redirections are made, as far as their text tells: to a file or
not. -/
def streamsBehind (streams : List (Nat × Sink)) : List Redirect → List (Nat × Sink)
  | [] => streams
  | .mk stream kind target :: rest =>
    let sink (n : Nat) : Sink := ((streams.find? fun s => s.1 = n).map (·.2)).getD .nowhere
    let now (s : Sink) : List (Nat × Sink) := (stream, s) :: streams.filter fun s => s.1 != stream
    match kind with
    | .write | .overwrite | .append => streamsBehind (now .nowhere) rest
    | .copy => streamsBehind (now (sink (decimal ((Word.bare? target).getD [])))) rest
    | .read | .here _ => streamsBehind streams rest

/-- The buffers that streams lead to. -/
def buffersBehind (streams : List (Nat × Sink)) : List Nat :=
  (streams.filterMap fun
    | (_, .buffer index) => some index
    | _ => none).eraseDups

/-- The redirections of a command as a whole. -/
def Command.redirects : Command → List Redirect
  | .simple _ _ _ rs | .redirected _ _ rs => rs
  | _ => []

/-- The stream of a redirection. -/
def Redirect.stream : Redirect → Nat
  | .mk stream .. => stream

/-- The line that shows a command before it is run, behind a mark. -/
def traceLine (mark : List Char) (assignments : List (List Char × List Char))
    (fields : List (List Char)) : List Char :=
  let shown := assignments.map fun (name, value) => name ++ '=' :: value
  mark ++ Text.join [' '] (shown ++ fields) ++ ['\n']

mutual

/-- What the parts of a word are expanded to. Values are cut at separators. -/
def expand (steps : Nat) (separators : List Char) (w : Word) : Action (List Atom) :=
  match steps with
  | 0 => throw .endless
  | steps + 1 =>
    match w with
    | [] => return []
    | part :: rest => do
      let first ← expandPart steps separators part
      return first ++ (← expand steps separators rest)

/-- What a part of a word is expanded to. -/
def expandPart (steps : Nat) (separators : List Char) (part : Part) : Action (List Atom) :=
  match steps with
  | 0 => throw .endless
  | steps + 1 =>
    match part with
    | .literal quoted text => return (if quoted then [.mark] else []) ++ atoms quoted text
    | .home name => do
      match ← homeOf? name with
      | some path => return .mark :: atoms true path
      | none => return atoms false ('~' :: name)
    | .output quoted body => do
      let out ← withBuffer fun index => inSubshell do
        redirectTo 1 (.buffer index)
        toEnd steps (perform steps false body)
      return valueAtoms quoted separators (dropLineEnds out)
    | .arithmetic quoted expression => do
      let s ← expand steps [] expression
      let text := plainText s
      match evaluate (← get).bindings text with
      | .ok (n, bindings) =>
        modify fun s => { s with bindings }
        return valueAtoms quoted separators (digits n)
      | .error problem => giveUp (problem.message text)
    | .parameter quoted name change => do
      let value ← valueOf? name
      let same : List Atom := valueAtoms quoted separators (value.getD [])
      let needed : Action Unit := do
        if value.isNone && (← get).flags.contains 'u' &&
            !(['@', '*'].contains (name.headD ' ')) then
          giveUp (name ++ chars ": parameter not set")
      match change with
      | .same =>
        needed
        if name = ['@'] || (name = ['*'] && !quoted) then
          return argumentAtoms quoted separators (← get).arguments
        else return same
      | .length =>
        needed
        return valueAtoms quoted separators (digits (value.getD []).length)
      | .cutFront longest pattern =>
        needed
        let p := patternOf (← expand steps [] pattern)
        return valueAtoms quoted separators (cutFront longest p (value.getD []))
      | .cutBack longest pattern =>
        needed
        let p := patternOf (← expand steps [] pattern)
        return valueAtoms quoted separators (cutBack longest p (value.getD []))
      | .fallback orEmpty kind word =>
        let missing := value.isNone || (orEmpty && (value.getD []).isEmpty)
        let inner := if quoted then [] else separators
        match kind with
        | .instead =>
          if missing then return cutAtoms inner (← expand steps inner word) else return same
        | .whenPresent =>
          if missing then return [] else return cutAtoms inner (← expand steps inner word)
        | .assign =>
          if missing then
            let text := plainText (← expand steps [] word)
            assign name text
            return valueAtoms quoted separators text
          else return same
        | .complain =>
          if missing then
            let text := plainText (← expand steps [] word)
            let reason := if orEmpty then "parameter not set or null" else "parameter not set"
            giveUp (name ++ [':', ' '] ++ (if text.isEmpty then chars reason else text))
          else return same

/-- The text of a word that is not split. -/
def textOf (steps : Nat) (w : Word) : Action (List Char) :=
  match steps with
  | 0 => throw .endless
  | steps + 1 => do return plainText (← expand steps [] w)

/-- The fields of words. -/
def fieldsOf (steps : Nat) (ws : List Word) : Action (List (List Char)) :=
  match steps with
  | 0 => throw .endless
  | steps + 1 =>
    match ws with
    | [] => return []
    | w :: rest => do
      let fields := fieldsFrom none (← expand steps (← separators) w)
      let s ← get
      let here := if s.flags.contains 'f' then fields.map fun f => f.map (·.2)
        else fields.flatMap (filesOf s.disk)
      return here ++ (← fieldsOf steps rest)

/-- Redirects streams one after the other; false if that is not possible. -/
def redirectAll (steps : Nat) (rs : List Redirect) : Action Bool :=
  match steps with
  | 0 => throw .endless
  | steps + 1 =>
    match rs with
    | [] => return true
    | .mk stream kind target :: rest => do
      if ← redirect steps stream kind target then redirectAll steps rest
      else
        setStatus 2
        return false

/-- Redirects a stream; false if that is not possible. -/
def redirect (steps : Nat) (stream : Nat) (kind : RedirectKind) (target : Word) : Action Bool :=
  match steps with
  | 0 => throw .endless
  | steps + 1 => do
    match kind with
    | .here index =>
      readFrom stream (← textOf steps (((← get).texts[index]?).getD [])) false
      return true
    | .copy =>
      let text ← textOf steps target
      if text = ['-'] then
        closeStream stream
        return true
      if stream = 0 then
        if ← readStream (decimal text) then return true
      match ← sinkOf? (decimal text), text with
      | some sink, _ =>
        redirectTo stream sink
        return true
      | none, ['0'] =>
        if stream != 0 then readFrom stream (← get).input true
        return true
      | none, _ =>
        complain (text ++ chars ": Bad file descriptor")
        return false
    | .read =>
      let path ← textOf steps target
      if path = chars "/dev/null" then
        readFrom stream [] true
        return true
      else if path = chars "/dev/stdin" || path = chars "/dev/fd/0" then return true
      else
        match (← get).disk.read (toString path) with
        | .ok bytes =>
          readFrom stream (ofBytes bytes) true
          return true
        | .error .isDirectory =>
          readFrom stream [] true
          return true
        | .error f =>
          complain (chars "cannot open " ++ path ++ chars ": " ++ chars
            (match f with | .missing => "No such file" | f => f.reason))
          return false
    | .write | .overwrite | .append =>
      let path ← textOf steps target
      if path = chars "/dev/null" then
        redirectTo stream .nowhere
        return true
      else if path = chars "/dev/stdout" || path = chars "/dev/fd/1" then
        redirectTo stream ((← sinkOf? 1).getD .nowhere)
        return true
      else if path = chars "/dev/stderr" || path = chars "/dev/fd/2" then
        redirectTo stream ((← sinkOf? 2).getD .nowhere)
        return true
      else
        let d := (← get).present
        let p := toString path
        let before : List UInt8 :=
          if kind = .append then ((d.read p).toOption).getD [] else []
        let keeps := (← get).flags.contains 'C' && kind = .write
        let isThere := (d.get p).toOption.any fun t => !t.isDir
        match if keeps && isThere then .error .alreadyThere else d.write p before with
        | .ok disk =>
          modify fun s => { s with disk }
          redirectTo stream (.file (((disk.locate p).toOption).getD []))
          return true
        | .error f =>
          complain (chars "cannot create " ++ path ++ chars ": " ++ chars
            (match f with | .missing => "Directory nonexistent" | f => f.reason))
          return false

/-- Runs the command of fields. -/
def dispatch (steps : Nat) (fields : List (List Char)) : Action Unit :=
  match steps with
  | 0 => throw .endless
  | steps + 1 =>
    match fields with
    | [] => return
    | name :: args => do
      let s ← get
      match s.functions.find? fun f => f.1 = name with
      | some (_, body) =>
        set { s with
          arguments := args, locals := some [], replaced := false
          optionIndex := 1, optionOffset := none }
        let restore : Action Unit := modify fun t => { t with
          arguments := s.arguments
          locals := s.locals
          optionIndex := s.optionIndex
          optionOffset := s.optionOffset
          bindings := (t.locals.getD []).foldl (fun vars (name, value) =>
            match value with
            | some v => Variables.set name v vars
            | none => Variables.erase name vars) t.bindings }
        try perform steps false body
        catch
          | .returned => pure ()
          | e => restore; throw e
        restore
      | none => runNamed steps name args

/-- Runs the command of a name that is not the one of a function. -/
def runNamed (steps : Nat) (name : List Char) (args : List (List Char)) : Action Unit :=
  match steps with
  | 0 => throw .endless
  | steps + 1 => do
    let s ← get
    match builtin? (toString name), toString name with
    | some act, _ =>
      let isSpecial := specialBuiltins.contains (toString name)
      speakingAs name (if isSpecial then act args else forgiving (act args))
    | none, "eval" =>
      set { s with replaced := false }
      let text := Text.join [' '] args
      if text.isEmpty then setStatus 0
      speakingAs name (run steps text)
    | none, "." =>
      set { s with replaced := false }
      match args with
      | [] => setStatus 0
      | path :: _ =>
        match s.readable? path with
        | none => speakingAs name (giveUp (path ++ chars ": not found"))
        | some path =>
          match s.disk.read (toString path) with
          | .ok bytes =>
            try speakingAs path (run steps (ofBytes bytes))
            catch
              | .returned => pure ()
              | e => throw e
          | .error .isDirectory => setStatus 0
          | .error _ =>
            speakingAs name (giveUp (chars "cannot open " ++ path ++ chars ": No such file"))
    | none, "exec" =>
      match args with
      | [] => return
      | program :: args =>
        match s.find program with
        | .nothing =>
          speakingAs name (complain (program ++ chars ": not found"))
          setStatus 127
        | .denied =>
          speakingAs name (complain (program ++ chars ": Permission denied"))
          setStatus 126
        | _ =>
          set { s with replaced := true, traps := s.traps.filter fun t => t.2.isEmpty }
          start steps program args
        throw .exit
    | none, "command" =>
      let (letters, fields) := switches args
      match letters.find? fun c => !(['p', 'v', 'V'].contains c), fields with
      | some c, _ => speakingAs name (forgiving (refuseOption c))
      | none, [] => setStatus 0
      | none, name :: args =>
        if letters.contains 'V' then typeOf [name]
        else if letters.contains 'v' then commandPath name
        else forgiving (runNamed steps name args)
    | none, _ =>
      if let some path := pathOfCommand? s name then
        unless name.contains '/' do set (s.starting name path)
      start steps name args

/-- Does what is to be done for the signals that have arrived. -/
def runTraps (steps : Nat) : Action Unit :=
  match steps with
  | 0 => throw .endless
  | steps + 1 => do
    let s ← get
    match s.arrived.find? fun a => a.1 = s.own with
    | none => return
    | some (process, signal, text) =>
      set { s with arrived := s.arrived.erase (process, signal, text) }
      run steps text
      setStatus s.status
      runTraps steps

/-- Runs a program. -/
def start (steps : Nat) (name : List Char) (args : List (List Char)) : Action Unit :=
  match steps with
  | 0 => throw .endless
  | steps + 1 => do
    let s ← get
    let notice : Action Unit := modify fun s => { s with
      jobs := s.jobs.map fun j => if j.ending.isSome then { j with known := true } else j }
    match s.find name with
    | .tool act =>
      makeWay
      let s ← get
      let e := act args s.input s.present
      set { s with disk := e.disk, input := e.left.getD s.input }
      unless e.time = 0 do passTime e.time
      write 1 e.out
      write 2 e.err
      setStatus e.status
      notice
    | .program act =>
      makeWay
      let startFields (fields : List (List Char)) : Action (Option DiskFailure) := do
        match fields with
        | [] => return some .missing
        | name :: args =>
          match (← get).find name with
          | .nothing => return some .missing
          | .denied => return some .denied
          | _ =>
            modify fun s => { s with replaced := false }
            start steps name args
            return none
      let host : Host := {
        start := startFields
        find := fun name => do return pathOfCommand? (← get) name }
      act host args
      notice
    | .shell =>
      let switches := args.takeWhile fun a => a.head? = some '-' && 1 < a.length
      let letters := switches.flatMap (·.drop 1)
      let called (word : List Char) (rest : List (List Char)) : Action Unit := modify fun s =>
        { s with name := word, arguments := rest, flags := letters.filter shellFlags.contains }
      match args.drop switches.length with
      | text :: rest =>
        if letters.contains 'c' then inProgram do
          called (rest.headD name) rest.tail
          script steps text
        else
          match s.disk.read (toString text) with
          | .ok bytes => inProgram do
            called text rest
            script steps (ofBytes bytes)
          | .error _ =>
            write 2 (name ++ chars ": 0: cannot open " ++ text ++ chars ": No such file\n")
            setStatus 2
      | [] => inProgram do
        let text := (← get).input
        modify fun s => { s with input := [] }
        called name []
        script steps text
    | .script path bytes => inProgram do
      modify fun s => { s with name := path, arguments := args }
      script steps (ofBytes bytes)
    | .own =>
      match builtin? (toString (basename name [])) with
      | some act => speakingAs (basename name []) (forgiving (act args))
      | none => return
    | .denied =>
      complain (name ++ chars ": Permission denied")
      setStatus 126
    | .nothing =>
      complain (name ++ chars (if name.isEmpty then ": Permission denied" else ": not found"))
      setStatus 127

/-- Runs a command; `tested` tells whether its failure is looked at. -/
def perform (steps : Nat) (tested : Bool) (c : Command) : Action Unit :=
  match steps with
  | 0 => throw .endless
  | steps + 1 => do
    let failing : Action Unit := do
      let s ← get
      if s.flags.contains 'e' && !tested && !s.tested && s.status != 0 then throw .exit
    if (← get).flags.contains 'n' then return
    match c with
    | .simple line assignments words redirects =>
      spend
      modify fun s => { s with line }
      let before ← get
      let fields ← fieldsOf steps words
      if fields.isEmpty && words.isEmpty then modify fun s => { s with status := 0 }
      assignWords steps assignments
      if before.flags.contains 'x' && !(fields.isEmpty && assignments.isEmpty) then
        let vars := (← get).bindings
        let mark := (vars.get? (chars "PS4")).getD []
        write 2 (traceLine mark (assignments.map fun a => (a.1, (vars.get? a.1).getD [])) fields)
      if fields = [chars "exec"] then
        unless ← redirectAll steps redirects do throw .mistake
      else
        let isSpecial :=
          (fields.head?.map fun f => specialBuiltins.contains (toString f)).getD false
        let isTemporary := !fields.isEmpty && !isSpecial && !assignments.isEmpty
        if isTemporary then exportAll (assignments.map (·.1))
        withStreams (redirects.map Redirect.stream) do
          if ← redirectAll steps redirects then
            unless fields.isEmpty do
              modify fun s => { s with tested := before.tested || tested }
              dispatch steps fields
              runTraps steps
          else if isSpecial then throw .mistake
        modify fun s => { s with tested := before.tested }
        if isTemporary then
          modify fun s => { s with
            exported := before.exported
            bindings := assignments.foldl (fun vars (name, _) =>
              match before.bindings.get? name with
              | some value => Variables.set name value vars
              | none => Variables.erase name vars) s.bindings }
        failing
    | .pipeline commands =>
      let s ← get
      pipe steps s.clock s.clock s.input commands
      failing
    | .negation body =>
      perform steps true body
      modify fun s => { s with status := if s.status = 0 then 1 else 0 }
    | .andThen first second =>
      perform steps true first
      if (← get).status = 0 then perform steps tested second
    | .orElse first second =>
      perform steps true first
      if (← get).status != 0 then perform steps tested second
    | .sequence commands => performAll steps tested commands
    | .background body =>
      let process ← newProcess
      let s ← get
      let buffers := buffersBehind (streamsBehind s.streams body.redirects)
      let number := s.freeNumber
      set { s with
        status := 0
        jobs := { process, buffers } :: s.jobs
        children := { process, number } :: s.children.filter (·.number != number)
        lastChild := some process }
      let (replaced, body) := match body with
        | .subshell body => (false, body)
        | .simple .. => (true, body)
        | _ => (false, body)
      let first := { s with
        own := process, outer := [], limits := [], children := [], replaced
        traps := s.traps.filter fun t => t.2.isEmpty
        input := [], inputIsFile := true }
      startBeside process first body
    | .choice condition body otherwise =>
      perform steps true condition
      if (← get).status = 0 then perform steps tested body
      else
        match otherwise with
        | some other => perform steps tested other
        | none => setStatus 0
    | .loop whileTrue condition body => inLoop (loop steps tested whileTrue condition body 0)
    | .each line name words body =>
      modify fun s => { s with line }
      let values ← match words with
        | some ws => fieldsOf steps ws
        | none => pure (← get).arguments
      setStatus 0
      inLoop (each steps tested name body values)
    | .select line word clauses =>
      modify fun s => { s with line }
      let text ← textOf steps word
      setStatus 0
      select steps tested text clauses
    | .redirected line body redirects => withStreams (redirects.map Redirect.stream) do
      modify fun s => { s with line }
      if ← redirectAll steps redirects then perform steps tested body
    | .subshell body =>
      inSubshell (toEnd steps (perform steps tested body))
      failing
    | .function name body =>
      modify fun s => { s with
        status := 0
        functions := (name, body) :: s.functions.filter fun f => f.1 != name }

/-- Runs commands one after the other. -/
def performAll (steps : Nat) (tested : Bool) (commands : List Command) : Action Unit :=
  match steps with
  | 0 => throw .endless
  | steps + 1 =>
    match commands with
    | [] => return
    | [c] => perform steps tested c
    | c :: rest => do
      perform steps tested c
      performAll steps tested rest

/-- Gives variables the values of words. -/
def assignWords (steps : Nat) (assignments : List (List Char × Word)) : Action Unit :=
  match steps with
  | 0 => throw .endless
  | steps + 1 =>
    match assignments with
    | [] => return
    | (name, w) :: rest => do
      assign name (← textOf steps w)
      assignWords steps rest

/-- Runs the commands of a pipeline, each from the same start; the pipeline ends when the last of
them ends. -/
def pipe (steps : Nat) (start stop : Nat) (input : List Char) (commands : List Command) :
    Action Unit :=
  match steps with
  | 0 => throw .endless
  | steps + 1 => do
    match commands with
    | [] => modify fun s => { s with clock := stop }
    | c :: rest =>
      let before := (← get).input
      let isFile := (← get).inputIsFile
      let stage (redirection : Action Unit) : Action Unit := do
        inSubshell do
          modify fun s => { s with input, clock := start, inputIsFile := false }
          redirection
          toEnd steps (perform steps false c)
        modify fun s => { s with input := before, inputIsFile := isFile, clock := max stop s.clock }
      if rest.isEmpty then stage (pure ())
      else
        let out ← withBuffer fun index => stage (redirectTo 1 (.buffer index))
        pipe steps start (← get).clock out rest

/-- Runs a loop; `status` is how its last round ended. -/
def loop (steps : Nat) (tested whileTrue : Bool) (condition body : Command) (status : Nat) :
    Action Unit :=
  match steps with
  | 0 => throw .endless
  | steps + 1 => do
    spend
    let next ← try
        perform steps true condition
        if ((← get).status = 0) = whileTrue then
          perform steps tested body
          pure (some true)
        else pure none
      catch
        | .broke n => if n ≤ 1 then pure (some false) else throw (.broke (n - 1))
        | .continued n => if n ≤ 1 then pure (some true) else throw (.continued (n - 1))
        | e => throw e
    match next with
    | some true => loop steps tested whileTrue condition body (← get).status
    | some false => return
    | none => setStatus status

/-- Runs a command for each value of a variable. -/
def each (steps : Nat) (tested : Bool) (name : List Char) (body : Command)
    (values : List (List Char)) : Action Unit :=
  match steps with
  | 0 => throw .endless
  | steps + 1 =>
    match values with
    | [] => return
    | v :: rest => do
      assign name v
      let next ← try
          perform steps tested body
          pure true
        catch
          | .broke n => if n ≤ 1 then pure false else throw (.broke (n - 1))
          | .continued n => if n ≤ 1 then pure true else throw (.continued (n - 1))
          | e => throw e
      if next then each steps tested name body rest

/-- Runs the first clause that has a pattern for a text. -/
def select (steps : Nat) (tested : Bool) (text : List Char)
    (clauses : List (List Word × Command)) : Action Unit :=
  match steps with
  | 0 => throw .endless
  | steps + 1 =>
    match clauses with
    | [] => return
    | (patterns, body) :: rest => do
      if ← anyHolds steps text patterns then perform steps tested body
      else select steps tested text rest

/-- Whether one of several patterns stands for a text. -/
def anyHolds (steps : Nat) (text : List Char) (patterns : List Word) : Action Bool :=
  match steps with
  | 0 => throw .endless
  | steps + 1 =>
    match patterns with
    | [] => return false
    | p :: rest => do
      if Pattern.holds (patternOf (← expand steps [] p)) text then return true
      else anyHolds steps text rest

/-- Runs a text. -/
def run (steps : Nat) (text : List Char) : Action Unit :=
  match steps with
  | 0 => throw .endless
  | steps + 1 => do
    let before := (← get).texts
    let restore : Action Unit := modify fun s => { s with texts := before }
    try runLines steps { rest := text, texts := before } catch e => restore; throw e
    restore

/-- Runs a text line by line. -/
def runLines (steps : Nat) (source : Source) : Action Unit :=
  match steps with
  | 0 => throw .endless
  | steps + 1 => do
    let source := { source with aliases := (← get).aliases }
    match nextLine source with
    | .error problem =>
      modify fun s => { s with line := problem.line }
      giveUp (chars problem.message)
    | .ok none => return
    | .ok (some (commands, behind)) =>
      let s ← get
      if s.flags.contains 'v' then
        write 2 (source.rest.take (source.rest.length - behind.rest.length))
      let source := behind
      modify fun s => { s with texts := source.texts }
      performAll steps false commands
      runLines steps source

/-- Does something that ends with the shell, and then what is to be done at its end. -/
def toEnd (steps : Nat) (act : Action Unit) : Action Unit :=
  match steps with
  | 0 => throw .endless
  | steps + 1 => do
    let untilExit (act : Action Unit) : Action Bool := do
      try
        act
        pure false
      catch
        | .exit | .mistake => pure true
        | .returned | .broke _ | .continued _ => pure false
        | e => throw e
    discard (untilExit act)
    let s ← get
    match s.traps.find? fun t => t.1 = 0 with
    | some (_, text) =>
      set { s with traps := s.traps.filter fun t => t.1 != 0 }
      unless ← untilExit (run steps text) do setStatus s.status
    | none => return

/-- Runs a script to its end. -/
def script (steps : Nat) (text : List Char) : Action Unit :=
  match steps with
  | 0 => throw .endless
  | steps + 1 => toEnd steps (run steps text)

end

end ScriptSuite.Shell
