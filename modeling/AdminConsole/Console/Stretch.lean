import AdminConsole.Console.Step

/-!
# Stretches

A caller that is not interrupted goes on until it has to wait for something or is done. Such a
stretch, and likewise one of a cycle, is a sequence of single steps with nothing in between.
-/

namespace AdminConsole

open AdminConsole.Time

namespace Console

variable {β : Type}

/-- Where a caller stands, if it is at a point where it can go on by itself. -/
def canAdvance (caller : Nat) (c : Console β) : Bool :=
  match c.callers[caller]? with
  | none | some (.finished _) | some .cancelled => false
  | some (.exchange _ (.inFlight _ _)) => false
  | some (.exchange _ (.waiting _ _ _ id)) | some (.waiting id) => (c.outcome? id).isSome
  | some _ => true

/-- Whether a cycle can go on by itself. -/
def canAdvanceCycle (id : CycleId) (c : Console β) : Bool :=
  match c.cycles[id]? with
  | none => false
  | some cycle =>
    match cycle.stage with
    | .ready | .answered _ | .written _ | .released _ => true
    | .inFlight | .settled _ | .dead => false

variable [Backend β]

/-- More steps than any stretch has. -/
def stretchLimit : Nat := 64

/-- Up to `limit` steps of a caller, for as long as it can go on by itself. -/
def advanceWhile (now : Moment) (caller : Nat) : Nat → Console β → Console β
  | 0, c => c
  | limit + 1, c =>
    if c.canAdvance caller then advanceWhile now caller limit (c.advance now caller) else c

/-- A stretch of a caller. -/
def stretch (now : Moment) (caller : Nat) (c : Console β) : Console β :=
  c.advanceWhile now caller stretchLimit

/-- Up to `limit` steps of a cycle, for as long as it can go on by itself. -/
def advanceCycleWhile (now : Moment) (id : CycleId) : Nat → Console β → Console β
  | 0, c => c
  | limit + 1, c =>
    if c.canAdvanceCycle id then advanceCycleWhile now id limit (c.advanceCycle now id) else c

/-- A stretch of a cycle. -/
def stretchCycle (now : Moment) (id : CycleId) (c : Console β) : Console β :=
  c.advanceCycleWhile now id stretchLimit

/-! ### One caller at a time -/

/-- Carries out an operation for a caller that is alone, asking `send` for the answers. Gives
nothing if the caller is not done within `limit` waits. -/
def serve {m : Type → Type} [Monad m] (now : Moment)
    (send : Request → m (Except ApiError Response)) (caller : Nat) :
    Nat → Console β → m (Option Outcome × Console β)
  | 0, c => pure (none, c)
  | limit + 1, c => do
    let c := c.stretch now caller
    match c.callers[caller]? with
    | some (.finished outcome) => pure (some outcome, c)
    | some (.exchange _ (.inFlight request _)) =>
      let result ← send request
      serve now send caller limit (c.answer caller result)
    | some (.exchange _ (.waiting _ _ _ id)) | some (.waiting id) =>
      let c := c.stretchCycle now id
      match c.cycles[id]? with
      | some ⟨refreshToken, .inFlight⟩ =>
        let result ← send (Renewal.request refreshToken)
        serve now send caller limit
          ((c.goOn id (.answered (Renewal.tokens result))).stretchCycle now id)
      | _ => serve now send caller limit c
    | _ => pure (none, c)

/-- More waits than any operation of a caller that is alone has. -/
def serveLimit : Nat := 16

/-- Carries out an operation for a caller that is alone. -/
def perform {m : Type → Type} [Monad m] (now : Moment)
    (send : Request → m (Except ApiError Response)) (op : Operation) (c : Console β) :
    m (Option Outcome × Console β) :=
  serve now send c.callers.length serveLimit (c.step now (.start op))

end Console

end AdminConsole
