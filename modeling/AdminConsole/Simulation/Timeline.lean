import AdminConsole.Console.Stretch
import AdminConsole.Simulation.Server

/-!
# Runs in virtual time

A `Timeline` plays tasks against a console and a scripted server. Nothing takes time but the delays
of the server and the pauses of the tasks; at each instant everything that can go on does so, in
the order in which it became able to, and those who wait for one renewal cycle go on in the order
in which they began to wait. All that happens to the console happens by `Console.step`, so a
timeline only chooses the order of events.

Tasks come in rounds. A round ends when all its tasks have ended; renewal cycles that are then
still under way go on in the next one.
-/

namespace AdminConsole.Simulation

open AdminConsole.Time

/-- One instruction of a task, for tasks that note values of a type `ρ`. -/
inductive Instruction (β ρ : Type) where
  /-- Asks the console for something and notes what comes of it. -/
  | ask (op : Operation) (note : Outcome → Console β → ρ)
  /-- Looks at the console and notes something. -/
  | look (note : Console β → ρ)
  /-- Lets time pass. -/
  | pause (units : Nat)

/-- Whether a task has ended. -/
inductive TaskStatus where
  | open
  | finished
  | cancelled
  deriving Repr, DecidableEq

/-- A task of a round. -/
structure Task (β ρ : Type) where
  script : List (Instruction β ρ)
  /-- The caller that carries out the instruction under way, and what is to be noted of it. -/
  current : Option (Nat × (Outcome → Console β → ρ)) := none
  /-- What was noted, with the time, last one first. -/
  notes : List (ρ × Nat) := []
  /-- The callers that carried out the task's instructions. -/
  callers : List Nat := []
  status : TaskStatus := .open

/-- What is due at some time. -/
inductive Occurrence where
  /-- A task begins, or its pause is over. -/
  | wake (task : Nat)
  /-- A task is dropped where it stands. -/
  | drop (task : Nat)
  /-- A caller's request is answered. -/
  | callerReply (task caller : Nat) (reply : Reply)
  /-- A renewal is answered. -/
  | cycleReply (id : CycleId) (reply : Reply)

/-- What can go on at the present instant. -/
inductive Actor where
  | task (task : Nat)
  | cycle (id : CycleId)
  deriving Repr, DecidableEq

/-- A console and a scripted server in virtual time. -/
structure Timeline (β ρ : Type) where
  console : Console β
  rules : List Rule := []
  /-- The time stamp of all writes. -/
  stamp : Moment
  now : Nat := 0
  /-- When the present round began. -/
  roundStart : Nat := 0
  /-- What is due and when, earliest first. -/
  agenda : List (Nat × Occurrence) := []
  /-- What can go on at the present instant, in order. -/
  ready : List Actor := []
  /-- The tasks that wait for a cycle, in the order in which they began to. -/
  waiting : List (CycleId × Nat) := []
  tasks : List (Task β ρ) := []
  /-- What was sent in the present round, with the time, last one first. -/
  sent : List (Transmission × Nat) := []

namespace Timeline

variable {β ρ : Type}

/-- Puts something on the agenda, behind all that is due no later. -/
def insertDue (due : Nat) (o : Occurrence) : List (Nat × Occurrence) → List (Nat × Occurrence)
  | [] => [(due, o)]
  | (d, p) :: rest => if due < d then (due, o) :: (d, p) :: rest else (d, p) :: insertDue due o rest

/-- Plans something for a time to come. -/
def plan (t : Timeline β ρ) (delay : Nat) (o : Occurrence) : Timeline β ρ :=
  { t with agenda := insertDue (t.now + delay) o t.agenda }

/-- The time since the round began. -/
def elapsed (t : Timeline β ρ) : Nat := t.now - t.roundStart

/-- Changes a task. -/
def modifyTask (t : Timeline β ρ) (k : Nat) (f : Task β ρ → Task β ρ) : Timeline β ρ :=
  { t with tasks := t.tasks.modify k f }

/-- Takes over the console after a stretch: notes what was sent, and lets the cycles go on that
were started. -/
def adopt (t : Timeline β ρ) (console : Console β) : Timeline β ρ :=
  let sent := console.log.take (console.log.length - t.console.log.length)
  let started := (List.range console.cycles.length).drop t.console.cycles.length
  { t with
    console := console
    sent := sent.map (fun x => (x, t.elapsed)) ++ t.sent
    ready := t.ready ++ started.map .cycle }

/-- The server's reply to a request. -/
def consult (t : Timeline β ρ) (request : Request) : Nat × Reply × Timeline β ρ :=
  let (delay, reply, rules) := Rule.respond request t.rules
  (delay, reply, { t with rules := rules })

variable [Backend β]

/-! ### What goes on at one instant -/

/-- Lets those go on who wait for a cycle that has come to an end. -/
def release (t : Timeline β ρ) (id : CycleId) : Timeline β ρ :=
  if (t.console.outcome? id).isSome then
    let (woken, left) := t.waiting.partition fun w => w.1 = id
    { t with ready := t.ready ++ woken.map (fun w => .task w.2), waiting := left }
  else t

/-- Answers a renewal. -/
def replyToCycle (t : Timeline β ρ) (id : CycleId) : Reply → Timeline β ρ
  | .answer result =>
    { t with console := t.console.step t.stamp (.answerCycle id result) }
  | .crash => { t with console := t.console.step t.stamp (.killCycle id) }

/-- Lets a cycle go on for as long as it can. -/
def runCycle (id : CycleId) : Nat → Timeline β ρ → Timeline β ρ
  | 0, t => t
  | limit + 1, t =>
    let sentBefore := t.console.log.length
    let t := t.adopt (t.console.stretchCycle t.stamp id)
    match t.console.cycles[id]?, t.console.log with
    | some ⟨_, .inFlight⟩, latest :: _ =>
      if t.console.log.length = sentBefore then t
      else
        let (delay, reply, t) := t.consult latest.request
        if delay = 0 then runCycle id limit (t.replyToCycle id reply)
        else t.plan delay (.cycleReply id reply)
    | _, _ => t.release id

/-- Answers a caller's request. A caller that is cut short is gone. -/
def replyToCaller (t : Timeline β ρ) (caller : Nat) : Reply → Timeline β ρ
  | .answer result => { t with console := t.console.step t.stamp (.answer caller result) }
  | .crash => { t with console := t.console.step t.stamp (.cancel caller) }

/-- Notes a value for a task. -/
def note (t : Timeline β ρ) (k : Nat) (value : ρ) : Timeline β ρ :=
  t.modifyTask k fun task => { task with notes := (value, t.elapsed) :: task.notes }

/-- Begins the next instruction of a task. Gives whether the task can go on at once. -/
def begin (t : Timeline β ρ) (k : Nat) (task : Task β ρ) : Bool × Timeline β ρ :=
  match task.script with
  | [] => (false, t.modifyTask k fun task => { task with status := .finished })
  | .ask op noteOutcome :: rest =>
    let caller := t.console.callers.length
    let t := { t with console := t.console.step t.stamp (.start op) }
    (true, t.modifyTask k fun task =>
      { task with
        script := rest
        current := some (caller, noteOutcome)
        callers := caller :: task.callers })
  | .look noteConsole :: rest =>
    let t := t.modifyTask k fun task => { task with script := rest }
    (true, t.note k (noteConsole t.console))
  | .pause units :: rest =>
    let t := t.modifyTask k fun task => { task with script := rest }
    if units = 0 then (true, t) else (false, t.plan units (.wake k))

/-- Lets a task go on for as long as it can. -/
def runTask (k : Nat) : Nat → Timeline β ρ → Timeline β ρ
  | 0, t => t
  | limit + 1, t =>
    match t.tasks[k]? with
    | none => t
    | some task =>
      if task.status ≠ .open then t
      else
        match task.current with
        | none =>
          let (goesOn, t) := t.begin k task
          if goesOn then runTask k limit t else t
        | some (caller, noteOutcome) =>
          let sentBefore := t.console.log.length
          let t := t.adopt (t.console.stretch t.stamp caller)
          match t.console.callers[caller]?, t.console.log with
          | some (.finished outcome), _ =>
            let t := t.modifyTask k fun task => { task with current := none }
            runTask k limit (t.note k (noteOutcome outcome t.console))
          | some (.exchange _ (.inFlight _ _)), latest :: _ =>
            if t.console.log.length = sentBefore then t
            else
              let (delay, reply, t) := t.consult latest.request
              if delay = 0 then runTask k limit (t.replyToCaller caller reply)
              else t.plan delay (.callerReply k caller reply)
          | some (.exchange _ (.waiting _ _ _ id)), _ | some (.waiting id), _ =>
            { t with waiting := t.waiting ++ [(id, k)] }
          | _, _ => t

/-- A bound on how long one actor goes on at one instant. -/
def turnLimit (t : Timeline β ρ) : Nat :=
  8 * t.tasks.foldl (fun n task => n + task.script.length) 1

/-- Lets everything go on that can at the present instant. -/
def settle : Nat → Timeline β ρ → Timeline β ρ
  | 0, t => t
  | limit + 1, t =>
    match t.ready with
    | [] => t
    | .cycle id :: rest => settle limit (runCycle id 8 { t with ready := rest })
    | .task k :: rest => settle limit (runTask k t.turnLimit { t with ready := rest })

/-! ### Time -/

/-- What is due happens. -/
def happen (t : Timeline β ρ) : Occurrence → Timeline β ρ
  | .wake k => { t with ready := t.ready ++ [.task k] }
  | .drop k =>
    match t.tasks[k]? with
    | some task =>
      if task.status ≠ .open then t
      else
        let t := t.modifyTask k fun task => { task with status := .cancelled }
        let t := { t with waiting := t.waiting.filter fun w => w.2 ≠ k }
        match task.current with
        | some (caller, _) => { t with console := t.console.step t.stamp (.cancel caller) }
        | none => t
    | none => t
  | .callerReply k caller reply =>
    { t.replyToCaller caller reply with ready := t.ready ++ [.task k] }
  | .cycleReply id reply => { t.replyToCycle id reply with ready := t.ready ++ [.cycle id] }

/-- All tasks of the round have ended. -/
def roundOver (t : Timeline β ρ) : Bool := t.tasks.all fun task => task.status != .open

/-- Plays the round until all its tasks have ended, if there is no horizon, or until everything has
happened that is due up to the horizon. -/
def play (horizon : Option Nat) : Nat → Timeline β ρ → Timeline β ρ
  | 0, t => t
  | limit + 1, t =>
    let t := t.settle (limit + 1)
    match horizon, t.agenda with
    | none, (due, o) :: rest =>
      if t.roundOver then t
      else play horizon limit (happen { t with now := due, agenda := rest } o)
    | none, [] => t
    | some h, (due, o) :: rest =>
      if due ≤ h then play horizon limit (happen { t with now := due, agenda := rest } o)
      else { t with now := h }
    | some h, [] => { t with now := h }

/-- More turns than any round has. -/
def roundLimit (scripts : List (List (Instruction β ρ))) (t : Timeline β ρ) : Nat :=
  100 * scripts.foldl (fun n script => n + 1 + script.length) (1 + t.agenda.length)

/-- What is due regardless of the tasks of a round that has ended. -/
def concernsCycles : Occurrence → Bool
  | .cycleReply _ _ => true
  | .wake _ | .drop _ | .callerReply _ _ _ => false

/-- Begins a round with tasks: when each begins, when it is dropped unless it has ended, and its
script. -/
def openRound (t : Timeline β ρ) (tasks : List (Nat × Option Nat × List (Instruction β ρ))) :
    Timeline β ρ :=
  let t :=
    { t with
      roundStart := t.now
      sent := []
      waiting := []
      agenda := t.agenda.filter fun x => concernsCycles x.2
      tasks := tasks.map fun x => { script := x.2.2 } }
  (tasks.zipIdx).foldl
    (fun t ((start, dropped, _), k) =>
      let t := t.plan start (.wake k)
      match dropped with
      | some d => t.plan d (.drop k)
      | none => t) t

/-- Plays a round with tasks to its end. -/
def round (t : Timeline β ρ) (tasks : List (Nat × Option Nat × List (Instruction β ρ))) :
    Timeline β ρ :=
  let t := t.openRound tasks
  t.play none (t.roundLimit (tasks.map fun x => x.2.2))

/-- Lets time pass, in a round without tasks. -/
def pass (t : Timeline β ρ) (units : Nat) : Timeline β ρ :=
  let t := t.openRound []
  t.play (some (t.now + units)) (t.roundLimit [])

end Timeline

end AdminConsole.Simulation
