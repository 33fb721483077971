import AdminConsole.Console.Stretch
import AdminConsole.Proofs.Console.Deeds
import AdminConsole.Proofs.Http.Bearer

/-!
# How often a request is sent

A caller with a rejected request looks at the session, and then sends the request again, or looks
for a cycle and waits for it, or gives up. After a cycle that failed it may find that the session
was replaced meanwhile, and then it looks at the session once more without having sent anything. So
nothing in the caller counts the rounds, and what bounds them is that a request is marked when it is
sent again, and that the second look finds what the caller has just seen.

`Console.deeds` is what a caller does in a run, `Course` lists all that a request can come to, and
`Reached` is how far it has come. `bounded_replay` draws the bounds from the list: three looks, one
cycle, one replay. Others may do anything at any time, except between two steps of one stretch of
the caller (`Console.Unbroken`): a session that changes once more before the second look could let
the caller wait for another cycle.
-/

namespace AdminConsole

open AdminConsole.Time

/-! ### Stretches of a caller -/

/-- The event is a step of this caller. -/
def Event.isStepOf (caller : Nat) : Event → Bool
  | .advance k => k == caller
  | _ => false

theorem Event.isStepOf_iff {caller : Nat} {e : Event} :
    e.isStepOf caller = true ↔ e = .advance caller := by
  cases e with
  | advance k => rw [isStepOf, beq_iff_eq, Event.advance.injEq]
  | _ => exact iff_of_false Bool.false_ne_true nofun

theorem Event.isStepOf_of_ne {caller : Nat} {e : Event} (h : e ≠ .advance caller) :
    e.isStepOf caller = false :=
  Bool.eq_false_iff.mpr fun hstep => h (isStepOf_iff.mp hstep)

namespace Console

variable {β : Type} [Backend β]

/-- Nobody gets between two steps of a stretch of this caller: as long as it can go on by itself
after a step, the next event is its next step. `midway` tells whether the caller is in the midst of
a stretch. -/
def Unbroken (caller : Nat) (midway : Bool) (c : Console β) : List (Moment × Event) → Prop
  | [] => True
  | (now, e) :: rest =>
    (midway = true → e.isStepOf caller = true) ∧
      Unbroken caller (e.isStepOf caller && (c.step now e).canAdvance caller) (c.step now e) rest

instance decidableUnbroken (caller : Nat) (midway : Bool) (c : Console β) :
    (s : List (Moment × Event)) → Decidable (c.Unbroken caller midway s)
  | [] => inferInstanceAs (Decidable True)
  | (now, e) :: rest =>
    have := decidableUnbroken caller (e.isStepOf caller && (c.step now e).canAdvance caller)
      (c.step now e) rest
    inferInstanceAs (Decidable (_ ∧ _))

end Console

/-! ### What a request can come to -/

/-- The ways from a rejection to a replay. -/
inductive Detour : List Deed → Prop
  | direct : Detour [.looked]
  | waited : Detour [.looked, .sought]
  | again : Detour [.looked, .sought, .looked]

/-- What can come after a replay. -/
inductive Aftermath : List Deed → Prop
  | nothing : Aftermath []
  | answered (result : Except ApiError Response) : Aftermath [.answered result]
  | looked (response : Response) : Aftermath [.answered (.ok response), .looked]

/-- All that can come of a request of a scope. -/
inductive Course (scope : Scope) : List Deed → Prop
  | nothing : Course scope []
  | sent (first : Request) : Course scope [.sent first]
  | answered (first : Request) (result : Except ApiError Response) :
      Course scope [.sent first, .answered result]
  | looked (first : Request) (response : Response) {way : List Deed} (hway : Detour way) :
      Course scope (.sent first :: .answered (.ok response) :: way)
  | replayed {first second : Request} {response : Response} {token : String}
      {way after : List Deed} (hcalls : first.CallsForRenewal scope response) (hway : Detour way)
      (hreplay : first.replayWith? token = some second) (hafter : Aftermath after) :
      Course scope (.sent first :: .answered (.ok response) :: way ++ .sent second :: after)

/-- A request is sent again: it is marked, and it is the first one but for the header that carries
the bearer token. -/
structure Request.IsReplayOf (second first : Request) : Prop where
  method : second.method = first.method
  path : second.path = first.path
  body : second.body = first.body
  options : second.options = first.options
  headers : ∀ name ≠ Headers.authorizationName,
    second.headers.values name = first.headers.values name
  marked : second.retried = true

theorem Request.isReplayOf_of_replayWith? {first second : Request} {token : String}
    (h : first.replayWith? token = some second) : second.IsReplayOf first := by
  rw [eq_of_replayWith? h]
  exact ⟨rfl, rfl, rfl, rfl, fun _ hname => first.headers.values_setAuthorization _ hname, rfl⟩

/-- The bounds on what a caller does on account of a request of a scope. -/
structure Bounded (scope : Scope) (deeds : List Deed) : Prop where
  rounds : deeds.countP Deed.isLook ≤ 3
  searches : deeds.countP Deed.isSearch ≤ 1
  sends : (deeds.filterMap Deed.request?).length ≤ 2
  /-- Only what the session guards and what was rejected is sent again, as it was but for the header
  that carries the token and for the mark, and then no cycle is looked for any more. -/
  replay : ∀ first second, deeds.filterMap Deed.request? = [first, second] →
    scope = .primary ∧ second.IsReplayOf first ∧ ∃ response way after value,
      deeds = .sent first :: .answered (.ok response) :: way ++ .sent second :: after ∧
        response.status.code = 401 ∧
        second = { first.withAuthorization value with retried := true } ∧
        after.countP Deed.isSearch = 0

/-- A caller that sends nothing between a rejection and a replay has not lost count. -/
theorem Detour.bounds {way : List Deed} (h : Detour way) :
    way.countP Deed.isLook ≤ 2 ∧ way.countP Deed.isSearch ≤ 1 ∧
      way.filterMap Deed.request? = [] := by
  cases h <;> decide

theorem Aftermath.bounds {after : List Deed} (h : Aftermath after) :
    after.countP Deed.isLook ≤ 1 ∧ after.countP Deed.isSearch = 0 ∧
      after.filterMap Deed.request? = [] := by
  cases h with
  | nothing => exact ⟨Nat.zero_le 1, rfl, rfl⟩
  | answered result => exact ⟨Nat.zero_le 1, rfl, rfl⟩
  | looked response => exact ⟨Nat.le_refl 1, rfl, rfl⟩

/-- A request that was not sent twice was not sent again. -/
theorem Bounded.of_length_le_one {scope : Scope} {deeds : List Deed}
    (hrounds : deeds.countP Deed.isLook ≤ 3) (hsearches : deeds.countP Deed.isSearch ≤ 1)
    (hsends : (deeds.filterMap Deed.request?).length ≤ 1) : Bounded scope deeds where
  rounds := hrounds
  searches := hsearches
  sends := Nat.le_succ_of_le hsends
  replay first second h := by
    rw [h] at hsends
    exact absurd hsends (Nat.not_succ_le_self 1)

/-- **Bounds.** Whatever comes of a request keeps within the bounds. -/
theorem Course.bounded {scope : Scope} {deeds : List Deed} (h : Course scope deeds) :
    Bounded scope deeds := by
  cases h with
  | nothing => exact .of_length_le_one (Nat.zero_le 3) (Nat.zero_le 1) (Nat.zero_le 1)
  | sent first => exact .of_length_le_one (Nat.zero_le 3) (Nat.zero_le 1) (Nat.le_refl 1)
  | answered first result =>
    exact .of_length_le_one (Nat.zero_le 3) (Nat.zero_le 1) (Nat.le_refl 1)
  | @looked first response way hway =>
    obtain ⟨hlooks, hsearches, hsends⟩ := hway.bounds
    refine .of_length_le_one ?_ ?_ ?_
    · simpa [Deed.isLook] using Nat.le_succ_of_le hlooks
    · simpa [Deed.isSearch] using hsearches
    · exact Nat.le_of_eq (congrArg (·.length + 1) hsends)
  | @replayed first second response token way after hcalls hway hreplay hafter =>
    obtain ⟨hlooks, hsearches, hsends⟩ := hway.bounds
    obtain ⟨hlooks', hsearches', hsends'⟩ := hafter.bounds
    have hall : (Deed.sent first :: .answered (.ok response) :: way ++
        .sent second :: after).filterMap Deed.request? = [first, second] := by
      rw [List.filterMap_append]
      exact congr (congrArg (first :: · ++ ·) hsends) (congrArg (second :: ·) hsends')
    refine ⟨?_, ?_, Nat.le_of_eq (congrArg List.length hall), fun first' second' heq => ?_⟩
    · simp only [List.countP_append, List.countP_cons, Deed.isLook]
      simp only [Bool.false_eq_true, if_false, Nat.add_zero]
      omega
    · simp only [List.countP_append, List.countP_cons, Deed.isSearch]
      simp only [Bool.false_eq_true, if_false, Nat.add_zero]
      omega
    · rw [hall] at heq
      cases heq
      exact ⟨hcalls.scope, Request.isReplayOf_of_replayWith? hreplay, response, way, after, _, rfl,
        hcalls.status, Request.eq_of_replayWith? hreplay, hsearches'⟩

namespace Exchange

/-- The request is at its end, and will not be sent any more. -/
def isClosing : Exchange → Bool
  | .droppingPeer _ | .clearing _ _ | .cleared _ _ | .redirecting _ _ _ | .navigating _
  | .finished _ => true
  | .preparing _ _ _ | .inFlight _ _ | .failed _ _ _ | .joining _ _ _ | .waiting _ _ _ _
  | .reconsidering _ _ _ => false

/-- How far a request has come, and what the caller has done for it. A caller may look a second time
in the midst of a stretch, and then finds the access token that it has just seen. -/
inductive Reached (scope : Scope) (midway : Bool) (access : Option String) :
    Exchange → List Deed → Prop
  | attaching (request : Request) (todo : List Attachment) :
      Reached scope midway access (.preparing request scope todo) []
  | awaiting (first : Request) : Reached scope midway access (.inFlight first scope) [.sent first]
  | failed (first : Request) (response : Response) :
      Reached scope midway access (.failed first scope response)
        [.sent first, .answered (.ok response)]
  | joining {first : Request} {response : Response}
      (hcalls : first.CallsForRenewal scope response) :
      Reached scope midway access (.joining first scope response)
        [.sent first, .answered (.ok response), .looked]
  | waiting {first : Request} {response : Response} (id : CycleId)
      (hcalls : first.CallsForRenewal scope response) :
      Reached scope midway access (.waiting first scope response id)
        [.sent first, .answered (.ok response), .looked, .sought]
  | reconsidering {first : Request} {response : Response}
      (hcalls : first.CallsForRenewal scope response) :
      Reached scope midway access (.reconsidering first scope response)
        [.sent first, .answered (.ok response), .looked, .sought]
  | again {first : Request} {response : Response} {token : String} (hmidway : midway = true)
      (hcalls : first.CallsForRenewal scope response)
      (hreplaced : replacement? access first.bearer = some token) :
      Reached scope midway access (.failed first scope response)
        [.sent first, .answered (.ok response), .looked, .sought]
  | replaying {first second : Request} {response : Response} {token : String} {way : List Deed}
      (hcalls : first.CallsForRenewal scope response) (hway : Detour way)
      (hreplay : first.replayWith? token = some second) :
      Reached scope midway access (.preparing second scope [])
        (.sent first :: .answered (.ok response) :: way)
  | replayed {first second : Request} {response : Response} {token : String} {way : List Deed}
      (hcalls : first.CallsForRenewal scope response) (hway : Detour way)
      (hreplay : first.replayWith? token = some second) :
      Reached scope midway access (.inFlight second scope)
        (.sent first :: .answered (.ok response) :: way ++ [.sent second])
  | refused {first second : Request} {response : Response} {token : String} {way : List Deed}
      (hcalls : first.CallsForRenewal scope response) (hway : Detour way)
      (hreplay : first.replayWith? token = some second) (last : Response) :
      Reached scope midway access (.failed second scope last)
        (.sent first :: .answered (.ok response) :: way ++ [.sent second, .answered (.ok last)])
  | closing {x : Exchange} {done : List Deed} (hx : x.isClosing = true)
      (hcourse : Course scope done) : Reached scope midway access x done

variable {scope : Scope} {midway : Bool} {access : Option String} {x : Exchange}
  {done : List Deed}

theorem Reached.course (h : Reached scope midway access x done) : Course scope done := by
  cases h with
  | attaching request todo => exact .nothing
  | awaiting first => exact .sent first
  | failed first response => exact .answered first (.ok response)
  | joining hcalls => exact .looked _ _ .direct
  | waiting id hcalls => exact .looked _ _ .waited
  | reconsidering hcalls => exact .looked _ _ .waited
  | again hmidway hcalls hreplaced => exact .looked _ _ .waited
  | replaying hcalls hway hreplay => exact .looked _ _ hway
  | replayed hcalls hway hreplay => exact .replayed hcalls hway hreplay .nothing
  | refused hcalls hway hreplay last => exact .replayed hcalls hway hreplay (.answered (.ok last))
  | closing hx hcourse => exact hcourse

/-- Only the second look depends on what the caller has seen, and it is never left open. -/
theorem Reached.congr (h : Reached scope midway access x done) {midway' : Bool}
    {access' : Option String}
    (hsame : midway = true → midway' = true ∧ access' = access ∨
      ∀ request response, x ≠ .failed request scope response) :
    Reached scope midway' access' x done := by
  cases h with
  | attaching request todo => exact .attaching request todo
  | awaiting first => exact .awaiting first
  | failed first response => exact .failed first response
  | joining hcalls => exact .joining hcalls
  | waiting id hcalls => exact .waiting id hcalls
  | reconsidering hcalls => exact .reconsidering hcalls
  | again hmidway hcalls hreplaced =>
    rcases hsame hmidway with ⟨hmidway', haccess⟩ | hnot
    · exact .again hmidway' hcalls (haccess ▸ hreplaced)
    · exact absurd rfl (hnot _ _)
  | replaying hcalls hway hreplay => exact .replaying hcalls hway hreplay
  | replayed hcalls hway hreplay => exact .replayed hcalls hway hreplay
  | refused hcalls hway hreplay last => exact .refused hcalls hway hreplay last
  | closing hx hcourse => exact .closing hx hcourse

/-- The request is sent again, unless the token may not stand in a header. -/
theorem reached_replay {first : Request} {response : Response} {way : List Deed}
    (hcalls : first.CallsForRenewal scope response) (hway : Detour way) (token : String) :
    Reached scope midway access (replay first scope token)
      (.sent first :: .answered (.ok response) :: way) := by
  rw [replay]
  cases hreplay : first.replayWith? token with
  | some second => exact .replaying hcalls hway hreplay
  | none => exact .closing rfl (.looked first response hway)

/-- The caller hears what came of the cycle. -/
theorem reached_resume {first : Request} {response : Response}
    (hcalls : first.CallsForRenewal scope response) (outcome : RenewalOutcome) :
    Reached scope midway access (resume first scope response outcome)
      [.sent first, .answered (.ok response), .looked, .sought] := by
  cases outcome with
  | ok token => exact reached_replay hcalls .waited token
  | error failure => exact .reconsidering hcalls

/-- A request that comes to nothing after a look is at its end. -/
theorem isClosing_decided {request : Request} {response : Response} {d : AuthDecision}
    (h : d.sendsAgain = false) : (decided request scope response d).isClosing = true := by
  cases d with
  | replayWithCurrent token => cases h
  | recover => cases h
  | _ => rfl

theorem Reached.answer (h : Reached scope midway access x done)
    (result : Except ApiError Response) :
    Reached scope midway access (x.answer result) (done ++ (x.answered? result).toList) := by
  have hsame : Reached scope midway access x (done ++ []) := (List.append_nil done).symm ▸ h
  cases h with
  | awaiting first =>
    cases result with
    | error e => exact .closing rfl (.answered first (.error e))
    | ok response =>
      simp only [Exchange.answer, Exchange.answered?]
      split
      · exact .closing rfl (.answered first (.ok response))
      · exact .failed first response
  | @replayed first second response token way hcalls hway hreplay =>
    have hcourse : Course scope
        ((.sent first :: .answered (.ok response) :: way ++ [.sent second]) ++
          [.answered result]) := by
      rw [List.append_assoc]
      exact .replayed hcalls hway hreplay (.answered result)
    cases result with
    | error e => exact .closing rfl hcourse
    | ok last =>
      simp only [Exchange.answer, Exchange.answered?]
      split
      · exact .closing rfl hcourse
      · rw [Option.toList_some, List.append_assoc]
        exact .refused hcalls hway hreplay last
  | closing hx hcourse =>
    cases x with
    | inFlight request scope => cases hx
    | _ => exact hsame
  | _ => exact hsame

/-! ### The steps of a request -/

section Steps

variable {β : Type} [Backend β] {c : Console β}

/-- What becomes of a failed request that will not be sent again. -/
theorem reached_stepExchange_failed {request : Request} {response : Response}
    (hnot : (FailureContext.of request scope response c.store.session.access
      c.store.session.refresh).decide.sendsAgain = false) (hcourse : Course scope done)
    (now : Moment) (caller : Nat) :
    Reached scope midway access (c.stepExchange now caller (.failed request scope response)).1
      done := by
  rw [Console.stepExchange]
  exact .closing (isClosing_decided hnot) hcourse

/-- **Steps of a request.** -/
theorem Reached.step (h : Reached scope midway c.store.session.access x done) (now : Moment)
    (caller : Nat) :
    Reached scope true (c.stepExchange now caller x).2.store.session.access
      (c.stepExchange now caller x).1 (done ++ x.deed?.toList) := by
  cases h with
  | attaching request todo =>
    cases todo with
    | nil => exact .awaiting request
    | cons a rest =>
      simp only [Console.stepExchange]
      split
      · exact .closing rfl .nothing
      · exact .attaching _ _
  | awaiting first => exact .awaiting first
  | failed first response =>
    cases hagain : (FailureContext.of first scope response c.store.session.access
        c.store.session.refresh).decide.sendsAgain with
    | false => exact reached_stepExchange_failed hagain (.looked first response .direct) now caller
    | true =>
      have hcalls := FailureContext.callsForRenewal_of_sendsAgain hagain
      simp only [Console.stepExchange]
      -- the request is sent again at once, or after a cycle
      cases hdecide : (FailureContext.of first scope response c.store.session.access
          c.store.session.refresh).decide with
      | replayWithCurrent token => exact reached_replay hcalls .direct token
      | recover => exact .joining hcalls
      | _ =>
        rw [hdecide] at hagain
        cases hagain
  | @joining first response hcalls =>
    simp only [Console.stepExchange]
    split
    · exact .waiting _ hcalls
    · exact reached_resume hcalls _
  | @waiting first response id hcalls =>
    simp only [Console.stepExchange]
    split
    · exact reached_resume hcalls _
    · exact .waiting id hcalls
  | @reconsidering first response hcalls =>
    have hget : c.store.get .access = c.store.session.access := rfl
    simp only [Console.stepExchange, hget]
    split
    · rename_i token hreplaced
      exact .again rfl hcalls hreplaced
    · exact .closing rfl (.looked first response .waited)
  | @again first response token hmidway hcalls hreplaced =>
    obtain ⟨rfl, hstatus, hrecoverable⟩ := hcalls
    have hdecide := FailureContext.decide_of_isRecoverable hrecoverable hstatus
      c.store.session.access c.store.session.refresh
    simp only [hreplaced] at hdecide
    simp only [Console.stepExchange, hdecide, decided]
    exact reached_replay ⟨rfl, hstatus, hrecoverable⟩ .again token
  | replaying hcalls hway hreplay => exact .replayed hcalls hway hreplay
  | replayed hcalls hway hreplay =>
    exact (List.append_nil _).symm ▸ .replayed hcalls hway hreplay
  | @refused first second response token way hcalls hway hreplay last =>
    have hcourse : Course scope
        ((.sent first :: .answered (.ok response) :: way ++ [.sent second, .answered (.ok last)]) ++
          [.looked]) := by
      rw [List.append_assoc]
      exact .replayed hcalls hway hreplay (.looked last)
    -- a request that was sent again is marked
    refine reached_stepExchange_failed (Bool.eq_false_iff.mpr fun hagain => ?_) hcourse now caller
    have hunsent := (FailureContext.callsForRenewal_of_sendsAgain hagain).recoverable.unsent
    rw [Request.retried_of_replayWith? hreplay] at hunsent
    cases hunsent
  | closing hx hcourse =>
    have hstill : Course scope (done ++ []) := (List.append_nil done).symm ▸ hcourse
    cases x with
    | droppingPeer e => exact .closing rfl hstill
    | clearing request said => exact .closing rfl hstill
    | cleared request said => exact .closing rfl hstill
    | redirecting request said generation =>
      simp only [Console.stepExchange]
      split <;> exact .closing rfl hstill
    | navigating said => exact .closing rfl hstill
    | finished result => exact .closing rfl hstill
    | _ => cases hx

end Steps

end Exchange

/-! ### Steps of a caller -/

namespace Activity

/-- The request is over, and the caller goes on without it. -/
def isPast : Activity → Bool
  | .installing _ | .rearming _ | .keeping _ | .closing | .parting | .finished _ | .cancelled =>
    true
  | .exchange _ _ | .leaving | .asking | .joining _ | .waiting _ | .writing _ | .arming
  | .redirecting _ _ | .navigating => false

theorem isPast_next (goal : Goal) (result : Except ApiError Response) :
    (goal.next result).isPast = true := by
  cases goal with
  | response => rfl
  | signIn =>
    simp only [Goal.next]
    split <;> rfl
  | tunnelSignIn =>
    simp only [Goal.next]
    split <;> rfl
  | signOut => rfl

theorem deed?_of_isPast {a : Activity} (h : a.isPast = true) : a.deed? = none := by
  cases a with
  | exchange goal x => cases h
  | _ => rfl

theorem answered?_of_isPast {a : Activity} (h : a.isPast = true)
    (result : Except ApiError Response) : a.answered? result = none := by
  cases a with
  | exchange goal x => cases h
  | _ => rfl

theorem isPast_stepActivity {β : Type} [Backend β] {a : Activity} (h : a.isPast = true)
    (now : Moment) (caller : Nat) (c : Console β) :
    (c.stepActivity now caller a).1.isPast = true := by
  cases a <;> first | rfl | cases h

/-- How far a caller with a request has come. -/
inductive Reached (scope : Scope) (midway : Bool) (access : Option String) :
    Activity → List Deed → Prop
  | within (goal : Goal) {x : Exchange} {done : List Deed}
      (hx : x.Reached scope midway access done) :
      Reached scope midway access (.exchange goal x) done
  | past {a : Activity} {done : List Deed} (ha : a.isPast = true) (hcourse : Course scope done) :
      Reached scope midway access a done

variable {scope : Scope} {midway : Bool} {access : Option String} {a : Activity}
  {done : List Deed}

theorem Reached.course (h : Reached scope midway access a done) : Course scope done := by
  cases h with
  | within goal hx => exact hx.course
  | past ha hcourse => exact hcourse

theorem Reached.congr (h : Reached scope midway access a done) {midway' : Bool}
    {access' : Option String}
    (hsame : midway = true → midway' = true ∧ access' = access ∨
      ∀ goal request response, a ≠ .exchange goal (.failed request scope response)) :
    Reached scope midway' access' a done := by
  cases h with
  | within goal hx =>
    refine .within goal (hx.congr fun hmidway => (hsame hmidway).imp_right fun hnot => ?_)
    rintro request response rfl
    exact hnot goal request response rfl
  | past ha hcourse => exact .past ha hcourse

/-- **Steps of a caller.** -/
theorem Reached.step {β : Type} [Backend β] {c : Console β}
    (h : Reached scope midway c.store.session.access a done) (now : Moment) (caller : Nat) :
    Reached scope true (c.stepActivity now caller a).2.store.session.access
      (c.stepActivity now caller a).1 (done ++ a.deed?.toList) := by
  cases h with
  | @within goal x done hx =>
    by_cases hover : ∃ result, x = .finished result
    · obtain ⟨result, rfl⟩ := hover
      exact .past (isPast_next goal result) ((List.append_nil done).symm ▸ hx.course)
    · rw [Console.stepActivity_exchange now caller goal c (not_exists.mp hover)]
      exact .within goal (hx.step now caller)
  | past ha hcourse =>
    refine .past (isPast_stepActivity ha now caller c) ?_
    rw [deed?_of_isPast ha, Option.toList_none, List.append_nil]
    exact hcourse

end Activity

namespace Console

variable {β : Type} {c : Console β} {caller : Nat} {scope : Scope} {midway : Bool}
  {done : List Deed}

/-- How far a caller of this console has come. -/
def Reached (caller : Nat) (scope : Scope) (midway : Bool) (done : List Deed) (c : Console β) :
    Prop :=
  ∃ a, c.callers[caller]? = some a ∧ a.Reached scope midway c.store.session.access done

theorem Reached.answer (h : c.Reached caller scope false done)
    (result : Except ApiError Response) :
    (c.answer caller result).Reached caller scope false
      (done ++ (c.deed? caller (.answer caller result)).toList) := by
  obtain ⟨a, ha, hreached⟩ := h
  have hlt : caller < c.callers.length := (List.getElem?_eq_some_iff.mp ha).1
  have hdeed : c.deed? caller (.answer caller result) = a.answered? result := by
    simp only [deed?, if_true, ha, Option.bind_some]
  rw [hdeed]
  cases hreached with
  | @within goal x done hx =>
    simp only [Console.answer, ha]
    exact ⟨_, List.getElem?_set_self hlt, .within goal (hx.answer result)⟩
  | past hpast hcourse =>
    rw [Activity.answered?_of_isPast hpast, Option.toList_none, List.append_nil]
    refine ⟨a, ?_, .past hpast hcourse⟩
    cases a with
    | exchange goal x => cases hpast
    | _ => simp only [Console.answer, ha]

theorem Reached.cancel (h : c.Reached caller scope midway done) :
    (c.cancel caller).Reached caller scope false done := by
  obtain ⟨a, ha, hreached⟩ := h
  have hlt : caller < c.callers.length := (List.getElem?_eq_some_iff.mp ha).1
  unfold Console.cancel
  split
  · rename_i hnone
    rw [ha] at hnone
    cases hnone
  · rename_i outcome hdone
    exact ⟨_, hdone, .past rfl hreached.course⟩
  · exact ⟨_, List.getElem?_set_self hlt, .past rfl hreached.course⟩

variable [Backend β]

theorem Reached.advance (h : c.Reached caller scope midway done) (now : Moment) :
    (c.advance now caller).Reached caller scope ((c.advance now caller).canAdvance caller)
      (done ++ (c.deed? caller (.advance caller)).toList) := by
  obtain ⟨a, ha, hreached⟩ := h
  have hself : (c.advance now caller).callers[caller]? = some (c.stepActivity now caller a).1 :=
    getElem?_callers_advance_self ha
  have hstore : (c.advance now caller).store = (c.stepActivity now caller a).2.store := by
    rw [advance_of_getElem? ha]
  have hdeed : c.deed? caller (.advance caller) = a.deed? := by
    simp only [deed?, if_true, ha, Option.bind_some]
  refine ⟨_, hself, ?_⟩
  rw [hdeed, hstore]
  -- a caller that is about to look at the session can always go on
  refine (hreached.step now caller).congr fun _ => ?_
  cases hcan : (c.advance now caller).canAdvance caller with
  | true => exact Or.inl ⟨rfl, rfl⟩
  | false =>
    refine Or.inr fun goal request response heq => ?_
    rw [heq] at hself
    simp only [canAdvance, hself] at hcan
    cases hcan

/-- **Steps of a run.** Whatever happens, the caller has come as far as its deeds say. -/
theorem Reached.next (h : c.Reached caller scope midway done) (now : Moment) {e : Event}
    (hmidway : midway = true → e.isStepOf caller = true) :
    (c.step now e).Reached caller scope (e.isStepOf caller && (c.step now e).canAdvance caller)
      (done ++ (c.deed? caller e).toList) := by
  by_cases hself : e = .advance caller
  · subst hself
    simp only [Event.isStepOf, beq_self_eq_true, Bool.true_and]
    exact h.advance now
  -- anybody else finds the caller between two stretches
  have hother : e.isStepOf caller = false := by
    cases e with
    | advance k => exact beq_false_of_ne fun heq => hself (congrArg Event.advance heq)
    | _ => rfl
  have hbetween : midway = false := by
    rw [hother] at hmidway
    exact Bool.eq_false_iff.mpr fun htrue => absurd (hmidway htrue) Bool.false_ne_true
  subst hbetween
  rw [hother, Bool.false_and]
  cases hspares : e.sparesCaller caller with
  | true =>
    obtain ⟨a, ha, hreached⟩ := h
    have hlt : caller < c.callers.length := (List.getElem?_eq_some_iff.mp ha).1
    rw [deed?_of_spares hspares, Option.toList_none, List.append_nil]
    exact ⟨a, (getElem?_callers_step hlt hspares now).trans ha,
      hreached.congr fun hfalse => absurd hfalse Bool.false_ne_true⟩
  | false =>
    cases e with
    | advance k =>
      obtain rfl : k = caller := by simpa [Event.sparesCaller] using hspares
      exact absurd rfl hself
    | answer k result =>
      obtain rfl : k = caller := by simpa [Event.sparesCaller] using hspares
      exact h.answer result
    | cancel k =>
      obtain rfl : k = caller := by simpa [Event.sparesCaller] using hspares
      exact (List.append_nil done).symm ▸ h.cancel
    | _ => cases hspares

/-- **Whole runs.** -/
theorem Reached.course_deeds {s : List (Moment × Event)} (h : c.Reached caller scope midway done)
    (hs : c.Unbroken caller midway s) : Course scope (done ++ c.deeds caller s) := by
  induction s generalizing c midway done with
  | nil =>
    obtain ⟨a, -, hreached⟩ := h
    exact (List.append_nil done).symm ▸ hreached.course
  | cons x rest ih =>
    obtain ⟨now, e⟩ := x
    rw [deeds, ← List.append_assoc]
    exact ih (h.next now hs.1) hs.2

/-- **Bounded replay.** A caller sends a request through the console. In every run that leaves its
stretches whole, whatever the table, the server and the others do, the caller goes through three
rounds of recovery at most, looks for a cycle at most once and sends the request at most twice; the
second one is the replay of a first one of the session's own scope that was rejected with status
401, with all headers of the first one but the one that carries the token, and after it no cycle is
looked for. -/
theorem bounded_replay {goal : Goal} {request : Request}
    (hcaller : c.callers[caller]? = some (.exchange goal (.start c.routes request)))
    {s : List (Moment × Event)} (hs : c.Unbroken caller false s) :
    Bounded (c.routes.classify request.path) (c.deeds caller s) ∧
      (c.run s).sentBy caller =
        c.sentBy caller ++ (c.deeds caller s).filterMap Deed.request? := by
  have hstart : c.Reached caller (c.routes.classify request.path) false [] :=
    ⟨_, hcaller, .within goal (.attaching request _)⟩
  exact ⟨(hstart.course_deeds hs).bounded, sentBy_run c caller s⟩

/-- A caller that is about to send a request. -/
def listing : Console MemoryBackend := guarded.step default (.start (.send .listing))

/-- The request is rejected, the renewal is refused while somebody signs in, and the request is
rejected with the token of the new session as well. -/
def overtaken : List (Moment × Event) :=
  [ .advance 0, .advance 0, .answer 0 (.ok .expired), .advance 0, .advance 0, .advanceCycle 0,
    .start (.write (.setSession ⟨some "B1", some "R9"⟩)), .advance 1,
    .answerCycle 0 (.ok .expired), .advanceCycle 0, .advanceCycle 0, .advanceCycle 0,
    .advance 0, .advance 0, .advance 0, .advance 0, .answer 0 (.ok .expired),
    .advance 0, .advance 0, .advance 0, .advance 0 ].map (default, ·)

theorem bounded_replay_overtaken :
    listing.Unbroken 0 false overtaken ∧ Bounded .primary (listing.deeds 0 overtaken) ∧
      (listing.deeds 0 overtaken).countP Deed.isLook = 3 ∧
      ((listing.run overtaken).sentBy 0).length = 2 := by
  have hs : listing.Unbroken 0 false overtaken := by decide
  have hcaller : listing.callers[0]? = some (.exchange .response (.start ⟨[]⟩ .listing)) := rfl
  obtain ⟨hbounded, hsent⟩ := bounded_replay hcaller hs
  exact ⟨hs, hbounded, rfl, rfl⟩

end Console

end AdminConsole
