import AdminConsole.Proofs.Console.BoundedReplay

/-!
# How callers move

A caller goes on in an event in one of four ways, and `Onward` lists them: it stays, it takes a
step, it is answered, or it goes away. An invariant of single callers is proved by going through the
list, without looking at the events that are no matter of the caller, and so is one that also speaks
of what the caller has done. Where only the request of a caller matters, `MovedRequest` says where
the request that is under way after an event has come from.
-/

namespace AdminConsole

open AdminConsole.Time

namespace Console

variable {β : Type} {caller : Nat} {c : Console β}

theorem deed?_advance {a : Activity} (ha : c.callers[caller]? = some a) :
    c.deed? caller (.advance caller) = a.deed? := by
  simp only [deed?, if_true, ha, Option.bind_some]

theorem deed?_answer {goal : Goal} {x : Exchange}
    (ha : c.callers[caller]? = some (.exchange goal x)) (result : Except ApiError Response) :
    c.deed? caller (.answer caller result) = x.answered? result := by
  simp only [deed?, if_true, ha, Option.bind_some, Activity.answered?]

variable [Backend β]

/-- How a caller goes on in an event, from where it stands to where it comes to stand. -/
inductive Onward (now : Moment) (e : Event) (caller : Nat) (c : Console β) :
    Activity → Activity → Prop
  | stayed {a : Activity} (he : e ≠ .advance caller) (hdeed : c.deed? caller e = none) :
      Onward now e caller c a a
  | stepped {a : Activity} (he : e = .advance caller) :
      Onward now e caller c a (c.stepActivity now caller a).1
  | answered {goal : Goal} {x : Exchange} (result : Except ApiError Response)
      (he : e = .answer caller result) :
      Onward now e caller c (.exchange goal x) (.exchange goal (x.answer result))
  | left {a : Activity} (he : e = .cancel caller) : Onward now e caller c a .cancelled

variable {now : Moment} {e : Event}

/-- **Moves.** A caller that is there goes on. -/
theorem exists_onward {a : Activity} (ha : c.callers[caller]? = some a) (now : Moment)
    (e : Event) :
    ∃ b, (c.step now e).callers[caller]? = some b ∧ Onward now e caller c a b := by
  have hlt : caller < c.callers.length := (List.getElem?_eq_some_iff.mp ha).1
  cases hspares : e.sparesCaller caller with
  | true =>
    refine ⟨a, (getElem?_callers_step hlt hspares now).trans ha, .stayed ?_ ?_⟩
    · rintro rfl
      exact bne_iff_ne.mp hspares rfl
    · exact deed?_of_spares hspares
  | false =>
    cases e with
    | advance k =>
      obtain rfl : k = caller := by simpa [Event.sparesCaller] using hspares
      exact ⟨_, getElem?_callers_advance_self ha, .stepped rfl⟩
    | answer k result =>
      obtain rfl : k = caller := by simpa [Event.sparesCaller] using hspares
      cases a with
      | exchange goal x =>
        refine ⟨_, ?_, .answered result rfl⟩
        simp only [step, answer, ha]
        exact List.getElem?_set_self hlt
      | _ =>
        refine ⟨_, ?_, .stayed (by simp) ?_⟩
        · simp only [step, answer, ha]
        · simp only [deed?, if_true, ha, Option.bind_some, Activity.answered?]
    | cancel k =>
      obtain rfl : k = caller := by simpa [Event.sparesCaller] using hspares
      cases a with
      | finished outcome =>
        refine ⟨_, ?_, .stayed (by simp) rfl⟩
        simp only [step, cancel, ha]
      | _ =>
        refine ⟨_, ?_, .left rfl⟩
        simp only [step, cancel, ha]
        exact List.getElem?_set_self hlt
    | _ => cases hspares

theorem length_callers_step_of_not_start (he : ∀ op, e ≠ .start op) (now : Moment)
    (c : Console β) : (c.step now e).callers.length = c.callers.length := by
  cases e with
  | start op => exact absurd rfl (he op)
  | advance k =>
    cases ha : c.callers[k]? with
    | none => rw [step, advance_of_getElem?_none ha]
    | some a => rw [step, advance_of_getElem? ha, callers_stepActivity, List.length_set]
  | answer k result =>
    obtain ⟨callers, heq, hlength⟩ := exists_answer_eq k result c
    rw [step, heq]
    exact hlength
  | cancel k =>
    obtain ⟨callers, heq, hlength⟩ := exists_cancel_eq k c
    rw [step, heq]
    exact hlength
  | advanceCycle id => rw [step, (advanceCycle_frame now id c).2.2]
  | answerCycle id result => rw [step, callers_goOn]
  | killCycle id => rw [step, callers_goOn]

/-- Whoever stands somewhere after an event was there before and has gone on, or has come in the
event. -/
theorem onward_of_getElem? {b : Activity} (hb : (c.step now e).callers[caller]? = some b) :
    (∃ a, c.callers[caller]? = some a ∧ Onward now e caller c a b) ∨
      ∃ op, e = .start op ∧ caller = c.callers.length ∧ b = .start c.routes op := by
  cases ha : c.callers[caller]? with
  | some a =>
    obtain ⟨b', hb', hmove⟩ := exists_onward ha now e
    rw [hb', Option.some_inj] at hb
    exact Or.inl ⟨a, rfl, hb ▸ hmove⟩
  | none =>
    -- nobody was there, so somebody has come
    have hge : c.callers.length ≤ caller := List.getElem?_eq_none_iff.mp ha
    have hlt : caller < (c.step now e).callers.length := (List.getElem?_eq_some_iff.mp hb).1
    cases e with
    | start op =>
      have hnew : caller = c.callers.length := by
        simp only [step, List.length_append, List.length_singleton] at hlt
        omega
      subst hnew
      rw [step, List.getElem?_concat_length, Option.some_inj] at hb
      exact Or.inr ⟨op, rfl, rfl, hb.symm⟩
    | _ =>
      rw [length_callers_step_of_not_start (by simp) now c] at hlt
      omega

/-! ### Requests under way -/

/-- How a request under way has come to stand where it stands after an event. -/
inductive MovedRequest (now : Moment) (e : Event) (caller : Nat) (c : Console β) (goal : Goal) :
    Exchange → Prop
  | fresh (request : Request) : MovedRequest now e caller c goal (.start c.routes request)
  | reported (request : Request) (scope : Scope) (response : Response)
      (he : e = .start (.recover request scope response)) (hnew : caller = c.callers.length) :
      MovedRequest now e caller c goal (.failed request scope response)
  | stayed {x : Exchange} (hx : c.callers[caller]? = some (.exchange goal x))
      (he : e ≠ .advance caller) : MovedRequest now e caller c goal x
  | stepped {x : Exchange} (hx : c.callers[caller]? = some (.exchange goal x))
      (he : e = .advance caller) :
      MovedRequest now e caller c goal (c.stepExchange now caller x).1
  | answered {x : Exchange} (result : Except ApiError Response)
      (hx : c.callers[caller]? = some (.exchange goal x)) (he : e = .answer caller result) :
      MovedRequest now e caller c goal (x.answer result)

theorem movedRequest_of_start {goal : Goal} {x : Exchange}
    (op : Operation) (he : e = .start op) (hnew : caller = c.callers.length)
    (hx : Activity.start c.routes op = .exchange goal x) : MovedRequest now e caller c goal x := by
  cases op with
  | send request => cases hx; exact .fresh request
  | recover request scope response => cases hx; exact .reported request scope response he hnew
  | login email password => cases hx; exact .fresh _
  | tunnelLogin username password => cases hx; exact .fresh _
  | _ => cases hx

theorem movedRequest_of_step {goal : Goal} {x : Exchange}
    {a : Activity} (ha : c.callers[caller]? = some a) (he : e = .advance caller)
    (hx : (c.stepActivity now caller a).1 = .exchange goal x) :
    MovedRequest now e caller c goal x := by
  cases a with
  | exchange goal' x' =>
    by_cases hover : ∃ result, x' = .finished result
    · -- a caller that is through with its request starts no other
      obtain ⟨result, rfl⟩ := hover
      have hpast := Activity.isPast_next goal' result
      have hnext : goal'.next result = .exchange goal x := hx
      rw [hnext] at hpast
      cases hpast
    · rw [stepActivity_exchange now caller goal' c (not_exists.mp hover)] at hx
      cases hx
      exact .stepped ha he
  | leaving =>
    simp only [stepActivity] at hx
    split at hx
    · cases hx
      exact .fresh _
    · cases hx
  | joining sent =>
    simp only [stepActivity] at hx
    split at hx <;> cases hx
  | waiting id =>
    simp only [stepActivity] at hx
    split at hx <;> cases hx
  | redirecting request generation =>
    simp only [stepActivity] at hx
    split at hx <;> cases hx
  | _ => cases hx

/-- **Requests.** A request that is under way after an event was so before, or has just been made or
brought. -/
theorem movedRequest_of_getElem? {goal : Goal} {x : Exchange}
    (hx : (c.step now e).callers[caller]? = some (.exchange goal x)) :
    MovedRequest now e caller c goal x := by
  rcases onward_of_getElem? hx with ⟨a, ha, hmove⟩ | ⟨op, he, hnew, hstart⟩
  · generalize hb : Activity.exchange goal x = b at hmove
    cases hmove with
    | stayed he hdeed => exact .stayed (hb ▸ ha) he
    | stepped he => exact movedRequest_of_step ha he hb.symm
    | answered result he =>
      cases hb
      exact .answered result ha he
    | left he => cases hb
  · exact movedRequest_of_start op he hnew hstart.symm

end Console

end AdminConsole
