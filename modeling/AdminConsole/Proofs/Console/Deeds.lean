import AdminConsole.Proofs.Console.Run

/-!
# What a caller does

The things that a caller does on account of a request, in the order in which it does them: it sends
the request, it is answered, it looks at the session after a failure, and it looks for a cycle to
wait for. `Console.deeds` lists them for a whole run, whatever the others do in between, and what
the caller has sent can be read off the list (`Console.sentBy_run`).
-/

namespace AdminConsole

open AdminConsole.Time

/-! ### What a caller does -/

/-- What a caller does on account of a request. -/
inductive Deed where
  /-- It hands the request to the transport. -/
  | sent (request : Request)
  /-- It gets an answer. -/
  | answered (result : Except ApiError Response)
  /-- It looks at the session after a failure, which is one round of recovery. -/
  | looked
  /-- It looks for a cycle to wait for. -/
  | sought

namespace Deed

/-- The request that is sent. -/
def request? : Deed → Option Request
  | .sent request => some request
  | .answered _ | .looked | .sought => none

/-- A round of recovery. -/
def isLook : Deed → Bool
  | .looked => true
  | .sent _ | .answered _ | .sought => false

/-- A search for a cycle. -/
def isSearch : Deed → Bool
  | .sought => true
  | .sent _ | .answered _ | .looked => false

end Deed

/-- What a request does in its next step. -/
def Exchange.deed? : Exchange → Option Deed
  | .preparing request _ [] => some (.sent request)
  | .failed _ _ _ => some .looked
  | .joining _ _ _ => some .sought
  | _ => none

/-- What a caller does in its next step. -/
def Activity.deed? : Activity → Option Deed
  | .exchange _ x => x.deed?
  | _ => none

/-- What an answer is to a request, if the request waits for one. -/
def Exchange.answered? (result : Except ApiError Response) : Exchange → Option Deed
  | .inFlight _ _ => some (.answered result)
  | _ => none

/-- What an answer is to a caller, if the caller waits for one. -/
def Activity.answered? (result : Except ApiError Response) : Activity → Option Deed
  | .exchange _ x => x.answered? result
  | _ => none

namespace Console

variable {β : Type} {c c' : Console β} {caller : Nat}

/-- What a caller does in an event. -/
def deed? (caller : Nat) (e : Event) (c : Console β) : Option Deed :=
  match e with
  | .advance k => if k = caller then c.callers[k]?.bind Activity.deed? else none
  | .answer k result =>
    if k = caller then c.callers[k]?.bind (Activity.answered? result) else none
  | _ => none

/-- What a caller does in a run, first thing first. -/
def deeds [Backend β] (caller : Nat) (c : Console β) : List (Moment × Event) → List Deed
  | [] => []
  | (now, e) :: rest => (c.deed? caller e).toList ++ deeds caller (c.step now e) rest

/-- A caller does nothing in an event that is no matter of it. -/
theorem deed?_of_spares {e : Event} (he : e.sparesCaller caller = true) :
    c.deed? caller e = none := by
  cases e with
  | advance k => exact if_neg (bne_iff_ne.mp he)
  | answer k result => exact if_neg (bne_iff_ne.mp he)
  | _ => rfl

theorem deeds_of_spares [Backend β] {t : List (Moment × Event)}
    (ht : ∀ x ∈ t, x.2.sparesCaller caller = true) : c.deeds caller t = [] := by
  induction t generalizing c with
  | nil => rfl
  | cons x rest ih =>
    obtain ⟨now, e⟩ := x
    rw [deeds, deed?_of_spares (ht _ List.mem_cons_self),
      ih fun y hy => ht y (List.mem_cons_of_mem _ hy)]
    rfl

/-! ### What a caller has sent -/

/-- Nothing is sent. -/
theorem sentBy_of_log_eq (h : c'.log = c.log) (caller : Nat) :
    c'.sentBy caller = c.sentBy caller ++ [] := by
  rw [sentBy, h, List.append_nil, sentBy]

theorem log_joinOrStart (sent : Option String) (c : Console β) :
    (c.joinOrStart sent).2.log = c.log := by
  obtain ⟨pending, cycles, heq⟩ := exists_joinOrStart_eq sent c
  rw [heq]

variable [Backend β]

theorem sentBy_stepActivity (now : Moment) (caller : Nat) (a : Activity) (c : Console β) :
    (c.stepActivity now caller a).2.sentBy caller =
      c.sentBy caller ++ (a.deed?.bind Deed.request?).toList := by
  rw [stepActivity_snd]
  cases a with
  | exchange goal x =>
    cases x with
    | preparing request scope todo =>
      cases todo with
      | nil => exact sentBy_transmit_self caller request c
      | cons a rest => exact sentBy_of_log_eq rfl caller
    | joining request scope response =>
      exact sentBy_of_log_eq (log_joinOrStart request.bearer c) caller
    | _ => exact sentBy_of_log_eq rfl caller
  | joining sent => exact sentBy_of_log_eq (log_joinOrStart sent c) caller
  | _ => exact sentBy_of_log_eq rfl caller

/-- What the others do is not sent in the caller's name. -/
theorem sentBy_stepActivity_of_ne {k : Nat} (hk : k ≠ caller) (now : Moment) (a : Activity)
    (c : Console β) : (c.stepActivity now k a).2.sentBy caller = c.sentBy caller := by
  have htouch := stepActivity_touch now k a c
  generalize (c.stepActivity now k a).2 = c' at htouch
  cases htouch with
  | sent request => exact sentBy_transmit_of_ne (by simpa using hk) request c
  | _ => rfl

theorem sentBy_step (now : Moment) (e : Event) (caller : Nat) (c : Console β) :
    (c.step now e).sentBy caller =
      c.sentBy caller ++ ((c.deed? caller e).bind Deed.request?).toList := by
  cases e with
  | advance k =>
    cases ha : c.callers[k]? with
    | none =>
      simp only [deed?, ha, Option.bind_none, ite_self, Option.toList_none]
      exact sentBy_of_log_eq (congrArg Console.log (advance_of_getElem?_none ha)) caller
    | some a =>
      rw [step, advance_of_getElem? ha, deed?, ha, Option.bind_some]
      by_cases hk : k = caller
      · subst hk
        rw [if_pos rfl]
        exact sentBy_stepActivity now k a c
      · rw [if_neg hk, Option.bind_none, Option.toList_none, List.append_nil]
        exact sentBy_stepActivity_of_ne hk now a c
  | answer k result =>
    -- an answer is a deed of the caller's, but nothing is sent
    have hnone : (c.deed? caller (.answer k result)).bind Deed.request? = none := by
      rw [deed?]
      split
      · cases c.callers[k]? with
        | none => rfl
        | some a =>
          cases a with
          | exchange goal x => cases x <;> rfl
          | _ => rfl
      · rfl
    rw [hnone]
    exact sentBy_of_log_eq (frame_step Console.log (fun _ _ => rfl) rfl now) caller
  | advanceCycle id =>
    exact (sentBy_advanceCycle now id caller c).trans (List.append_nil _).symm
  | _ => exact sentBy_of_log_eq (frame_step Console.log (fun _ _ => rfl) rfl now) caller

theorem deeds_append (c : Console β) (caller : Nat) (s t : List (Moment × Event)) :
    c.deeds caller (s ++ t) = c.deeds caller s ++ (c.run s).deeds caller t := by
  induction s generalizing c with
  | nil => rfl
  | cons x rest ih =>
    obtain ⟨now, e⟩ := x
    rw [List.cons_append, deeds, deeds, run, ih, List.append_assoc]

theorem deeds_append_singleton (c : Console β) (caller : Nat) (s : List (Moment × Event))
    (now : Moment) (e : Event) :
    c.deeds caller (s ++ [(now, e)]) =
      c.deeds caller s ++ ((c.run s).deed? caller e).toList := by
  rw [deeds_append, deeds, deeds, List.append_nil]

/-- A caller has sent what its deeds say. -/
theorem sentBy_run (c : Console β) (caller : Nat) (s : List (Moment × Event)) :
    (c.run s).sentBy caller =
      c.sentBy caller ++ (c.deeds caller s).filterMap Deed.request? := by
  induction s generalizing c with
  | nil => exact (List.append_nil _).symm
  | cons x rest ih =>
    obtain ⟨now, e⟩ := x
    rw [run, ih, sentBy_step, deeds, List.append_assoc, List.filterMap_append]
    cases c.deed? caller e <;> rfl

end Console

end AdminConsole
