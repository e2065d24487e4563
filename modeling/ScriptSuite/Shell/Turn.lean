import ScriptSuite.Shell.Evaluate

/-!
# Taking turns

Shells that run at the same time take turns: whenever one of them waits, the one goes on that can do
so first, and of several the one that has waited longest. So what they print comes in the order of
time.

## Main definitions

* `Shell.Waiting`: a shell that waits.
* `Shell.Waiting.ready?`: when it can go on.
* `Shell.runAlone`: runs a shell, and all that it leaves behind, to the end.
-/

namespace ScriptSuite.Shell

/-- A shell that waits. -/
structure Waiting where
  /-- The number of its process. -/
  process : Nat
  /-- Its state. -/
  session : Session
  /-- What it waits for. -/
  awaited : Awaited
  /-- How it goes on. -/
  next : Session → Course Unit

/-- The number of the process of a script. -/
def firstProcess : Nat := 4242

/-- The earlier of two points of time. -/
def earlier? : Option Nat → Option Nat → Option Nat
  | some a, some b => some (min a b)
  | some a, none => some a
  | none, b => b

namespace Waiting

/-- When a signal makes a shell go on: one that ends it, or one that something is done for while it
waits for other processes. -/
def woken? (w : Waiting) (sending : Sending) : Option Nat := do
  let traps ← w.session.trapsOf? sending.process
  let trap := if Signal.isOptional sending.signal then
      traps.find? fun t => t.1 = sending.signal
    else none
  let wakes : Bool := match trap, w.awaited with
    | some (_, text), .endings .. => !text.isEmpty
    | some _, _ => false
    | none, _ => Signal.effect sending.signal = .ends
  if wakes then some (max sending.time w.session.clock) else none

/-- When a shell can go on, if it can as things are. -/
def ready? (w : Waiting) (now : Session) : Option Nat :=
  let own := match w.awaited with
    | .time t => some t
    | .nothing => none
    | .endings processes limit =>
      let endings := processes.map now.ending?
      if endings.all Option.isSome then
        some (endings.foldl (fun t e => max t ((e.map (·.1)).getD 0)) w.session.clock)
      else limit
  (now.sendings.map w.woken?).foldl earlier? own

/-- The shell that can go on first with the time of that, and the others. -/
def pick? (now : Session) : List Waiting → Option (Nat × Waiting × List Waiting)
  | [] => none
  | w :: rest =>
    match w.ready? now, pick? now rest with
    | none, none => none
    | some t, none => some (t, w, rest)
    | none, some (t, other, rest) => some (t, other, w :: rest)
    | some t, some (t', other, others) =>
      if t ≤ t' then some (t, w, rest) else some (t', other, w :: others)

end Waiting

/-- What is known of shells that take turns. -/
structure Turns where
  /-- What the last of them saw. -/
  now : Session
  /-- Those that wait. -/
  waiting : List Waiting
  /-- How the first one ended, once it has. -/
  ending : Option (Except Interruption Unit × Session) := none

/-- How a process ended, as a status. -/
def statusOfEnding (s : Session) : Except Interruption Unit → Nat
  | .error (.killed _ signal) => 128 + signal
  | _ => s.status % 256

/-- Follows a shell until it waits or is done. -/
def Turns.follow (steps process : Nat) (t : Turns) : Course Unit → Turns
  | .waits session awaited next =>
    { t with now := session, waiting := t.waiting ++ [{ process, session, awaited, next }] }
  | .starts s other first body next =>
    let waiting := { process := other, session := first, awaited := .time first.clock
                     next := toEnd steps (perform steps false body) }
    follow steps process { t with waiting := t.waiting ++ [waiting] } (next s)
  | .done s r =>
    if process = firstProcess then { t with now := s, ending := some (r, s) }
    else
      match r with
      | .error .endless =>
        { t with now := s, waiting := t.waiting ++
            [{ process, session := s, awaited := .nothing
               next := fun s => .done s (.error .endless) }] }
      | r => { t with now := s.ended process (statusOfEnding s r) }

/-- Lets shells take turns until none of them can go on. -/
def Turns.run (steps : Nat) : Nat → Turns → Turns
  | 0, t => t
  | turns + 1, t =>
    match Waiting.pick? t.now t.waiting with
    | none => t
    | some (clock, w, waiting) =>
      let session := { w.session.seeing t.now with clock }
      run steps turns (Turns.follow steps w.process { t with waiting } (w.next session))

/-- Runs a shell, and all that it leaves behind, to the end: how it ended, its state then, and what
is seen at the very end. -/
def runAlone (steps : Nat) (start : Session) (act : Action Unit) :
    Except Interruption Unit × Session × Session :=
  let first : Turns := Turns.follow steps firstProcess { now := start, waiting := [] } (act start)
  let last := first.run steps steps
  match last.ending with
  | some (r, s) => (r, s, last.now)
  | none => (.error .endless, last.now, last.now)

end ScriptSuite.Shell
