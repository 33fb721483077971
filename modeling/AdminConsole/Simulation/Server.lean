import AdminConsole.Http.Request
import AdminConsole.Error

/-!
# A scripted server

A scripted server answers by rules: the first rule that fits a request and is not used up answers
it, after a delay. The rule is chosen, and its use counted, when the request is sent.
-/

namespace AdminConsole.Simulation

/-- What comes of a request. -/
inductive Reply where
  | answer (result : Except ApiError Response)
  /-- The one who sent the request is cut short. -/
  | crash

/-- A rule of a scripted server. -/
structure Rule where
  method : Option String := none
  /-- The whole path, with its query. -/
  path : Option String := none
  /-- The bearer token the request has to carry, or that it has to carry none. -/
  bearer : Option (Option String) := none
  /-- How many uses are left, if they are limited. -/
  uses : Option Nat := none
  /-- The time units that pass before the answer. -/
  delay : Nat := 0
  reply : Reply

namespace Rule

/-- The rule fits a request and is not used up. -/
def fits (rule : Rule) (request : Request) : Bool :=
  rule.uses != some 0 &&
    rule.method.all (· == request.method.name) &&
    rule.path.all (· == request.path) &&
    rule.bearer.all (· == request.bearer)

/-- The rule after one more use. -/
def used (rule : Rule) : Rule := { rule with uses := rule.uses.map (· - 1) }

/-- What a request gets that no rule fits. -/
def unmatched : Reply := .answer (.ok ⟨{ code := 404 }, "no rule"⟩)

/-- The delay and the reply for a request, and the rules afterwards. -/
def respond (request : Request) : List Rule → Nat × Reply × List Rule
  | [] => (0, unmatched, [])
  | rule :: rest =>
    if rule.fits request then (rule.delay, rule.reply, rule.used :: rest)
    else
      let (delay, reply, rest) := respond request rest
      (delay, reply, rule :: rest)

end Rule

end AdminConsole.Simulation
