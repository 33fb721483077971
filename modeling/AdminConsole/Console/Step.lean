import AdminConsole.Console.Basic

/-!
# The steps of a console

One step is one operation on what is shared, by one caller or one cycle; between two steps of one
of them any number of steps of others may come. `Console.step` carries out an `Event`: a step, an
answer of the server, a new caller, or the end of one. An event that does not fit the state changes
nothing, so every sequence of events is a run.

Two orders within a cycle matter. It is installed in the slot before it can do anything, and the
store is read in the same step; and it writes the store before it empties the slot, so that whoever
finds the slot empty afterwards finds the outcome in the store.
-/

namespace AdminConsole

open AdminConsole.Time

/-- What looking for a cycle gives: one to wait for, or an outcome at once. -/
inductive Joined where
  | pending (cycle : CycleId)
  | ready (outcome : RenewalOutcome)

/-- Something that happens to a console. -/
inductive Event where
  /-- A new caller asks for something. -/
  | start (op : Operation)
  /-- A caller takes a step. -/
  | advance (caller : Nat)
  /-- A caller's request is answered. -/
  | answer (caller : Nat) (result : Except ApiError Response)
  /-- A caller goes away. -/
  | cancel (caller : Nat)
  /-- A cycle takes a step. -/
  | advanceCycle (id : CycleId)
  /-- A renewal is answered. -/
  | answerCycle (id : CycleId) (result : Except ApiError Response)
  /-- A cycle is cut short while it waits for its answer. -/
  | killCycle (id : CycleId)

namespace Console

variable {β : Type}

/-! ### Looking for a cycle -/

/-- The cycle that is under way, if there is one. Otherwise the token in the store, if it is not
the one that was sent; or else a new cycle, if there is a refresh token to start it with. -/
def joinOrStart (sent : Option String) (c : Console β) : Joined × Console β :=
  match c.pending with
  | some id => (.pending id, c)
  | none =>
    let session := c.store.session
    match replacement? session.access sent with
    | some token => (.ready (.ok token), c)
    | none =>
      match session.refresh with
      | none => (.ready (.error (.rejected .unauthorized)), c)
      | some refreshToken =>
        let id := c.cycles.length
        (.pending id,
          { c with pending := some id, cycles := c.cycles ++ [{ refreshToken := refreshToken }] })

variable [Backend β]

/-! ### Steps of a request -/

/-- One step of a request of a caller. -/
def stepExchange (now : Moment) (caller : Nat) (x : Exchange) (c : Console β) :
    Exchange × Console β :=
  match x with
  | .preparing request scope [] =>
    (.inFlight request scope, c.transmit (.caller caller) request)
  | .preparing request scope (a :: rest) =>
    let p := a.attach c.store request
    match p.failure with
    | some e => (.finished (.error e), c)
    | none => (.preparing p.request scope (p.remaining.toList ++ rest), c)
  | .inFlight _ _ => (x, c)
  | .failed request scope response =>
    let session := c.store.session
    let context := FailureContext.of request scope response session.access session.refresh
    (.decided request scope response context.decide, c)
  | .droppingPeer e => (.finished (.error e), { c with store := c.store.clearPeer })
  | .joining request scope response =>
    match c.joinOrStart request.bearer with
    | (.pending id, c) => (.waiting request scope response id, c)
    | (.ready outcome, c) => (.resume request scope response outcome, c)
  | .waiting request scope response id =>
    match c.outcome? id with
    | some outcome => (.resume request scope response outcome, c)
    | none => (x, c)
  | .reconsidering request scope response =>
    match replacement? (c.store.get .access) request.bearer with
    | some _ => (.failed request scope response, c)
    | none => (.clearing request (ApiError.ofResponse response).said, c)
  | .clearing request said =>
    (.cleared request said, { c with store := c.store.clear now .session })
  | .cleared request said => (.redirecting request said c.store.generation, c)
  | .redirecting request said generation =>
    let (first, redirector) := c.redirector.mark request generation
    (if first then .navigating said else .finished (.error (.sessionExpired said)),
      { c with redirector := redirector })
  | .navigating said =>
    (.finished (.error (.sessionExpired said)), { c with redirector := c.redirector.navigate })
  | .finished _ => (x, c)

/-! ### Steps of a caller -/

/-- One step of a caller. -/
def stepActivity (now : Moment) (caller : Nat) (a : Activity) (c : Console β) :
    Activity × Console β :=
  match a with
  | .exchange goal (.finished result) => (goal.next result, c)
  | .exchange goal x =>
    let (x, c) := c.stepExchange now caller x
    (.exchange goal x, c)
  | .installing pair => (.rearming pair, { c with store := c.store.setSession now pair })
  | .rearming pair =>
    (.finished (.signedIn (.ok pair)), { c with redirector := c.redirector.rearm })
  | .keeping token =>
    (.finished (.tunnelSignedIn (.ok ())),
      { c with store := c.store.set now .tunnelServer token })
  | .leaving =>
    if c.isAuthenticated then
      (.exchange .signOut (.start c.routes Identity.signOutRequest), c)
    else (.closing, c)
  | .closing => (.parting, { c with store := c.store.clear now .session })
  | .parting => (.finished .done, { c with store := c.store.clearPeer })
  | .asking => (.joining (c.store.get .access), c)
  | .joining sent =>
    match c.joinOrStart sent with
    | (.pending id, c) => (.waiting id, c)
    | (.ready outcome, c) => (.finished (.renewed outcome), c)
  | .waiting id =>
    match c.outcome? id with
    | some outcome => (.finished (.renewed outcome), c)
    | none => (a, c)
  | .writing w =>
    let (reply, store) := c.store.apply now w
    (.finished (.reply reply), { c with store := store })
  | .arming => (.finished .done, { c with redirector := c.redirector.rearm })
  | .redirecting request generation =>
    let (first, redirector) := c.redirector.mark request generation
    (if first then .navigating else .finished (.redirected false),
      { c with redirector := redirector })
  | .navigating =>
    (.finished (.redirected true), { c with redirector := c.redirector.navigate })
  | .finished _ | .cancelled => (a, c)

/-- The caller takes a step. -/
def advance (now : Moment) (caller : Nat) (c : Console β) : Console β :=
  match c.callers[caller]? with
  | none => c
  | some a =>
    let (a, c) := c.stepActivity now caller a
    { c with callers := c.callers.set caller a }

/-! ### Steps of a cycle -/

/-- One step of a cycle. -/
def stepCycle (now : Moment) (id : CycleId) (cycle : Cycle) (c : Console β) :
    CycleStage × Console β :=
  match cycle.stage with
  | .ready => (.inFlight, c.transmit (.cycle id) (Renewal.request cycle.refreshToken))
  | .inFlight => (.inFlight, c)
  | .answered (.ok tokens) =>
    let (b, store) := c.store.renew now cycle.refreshToken tokens.access tokens.refresh
    (.written (if b then .ok tokens.access else .error .superseded), { c with store := store })
  | .answered (.error e) =>
    let (_, store) := c.store.clearIf now cycle.refreshToken
    (.written (.error e), { c with store := store })
  | .written outcome =>
    (.released outcome, { c with pending := if c.pending = some id then none else c.pending })
  | .released outcome => (.settled outcome, c)
  | .settled outcome => (.settled outcome, c)
  | .dead => (.dead, c)

/-- The cycle takes a step. -/
def advanceCycle (now : Moment) (id : CycleId) (c : Console β) : Console β :=
  match c.cycles[id]? with
  | none => c
  | some cycle =>
    let (stage, c) := c.stepCycle now id cycle
    { c with cycles := c.cycles.set id { cycle with stage := stage } }

/-! ### Events -/

/-- A caller's request is answered, if the caller waits for that. -/
def answer (caller : Nat) (result : Except ApiError Response) (c : Console β) : Console β :=
  match c.callers[caller]? with
  | some (.exchange goal x) =>
    { c with callers := c.callers.set caller (.exchange goal (x.answer result)) }
  | _ => c

/-- The caller goes away, unless it is done. -/
def cancel (caller : Nat) (c : Console β) : Console β :=
  match c.callers[caller]? with
  | none | some (.finished _) => c
  | some _ => { c with callers := c.callers.set caller .cancelled }

/-- The cycle goes on from a stage, if it waits for its answer. -/
def goOn (id : CycleId) (stage : CycleStage) (c : Console β) : Console β :=
  match c.cycles[id]? with
  | some ⟨refreshToken, .inFlight⟩ => { c with cycles := c.cycles.set id ⟨refreshToken, stage⟩ }
  | _ => c

/-- The console after an event. -/
def step (now : Moment) (e : Event) (c : Console β) : Console β :=
  match e with
  | .start op => { c with callers := c.callers ++ [.start c.routes op] }
  | .advance caller => c.advance now caller
  | .answer caller result => c.answer caller result
  | .cancel caller => c.cancel caller
  | .advanceCycle id => c.advanceCycle now id
  | .answerCycle id result => c.goOn id (.answered (Renewal.tokens result))
  | .killCycle id => c.goOn id .dead

/-- The console after a sequence of events, each with its time. -/
def run (c : Console β) : List (Moment × Event) → Console β
  | [] => c
  | (now, e) :: rest => run (c.step now e) rest

theorem run_append (c : Console β) (s t : List (Moment × Event)) :
    c.run (s ++ t) = (c.run s).run t := by
  induction s generalizing c with
  | nil => rfl
  | cons x s ih =>
    obtain ⟨now, e⟩ := x
    simp only [List.cons_append, run]
    exact ih _

end Console

end AdminConsole
