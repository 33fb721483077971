import AdminConsole.Proofs.Console.SingleFlight

/-!
# A session and the one cycle that changes it

Where nobody writes the store but one renewal cycle, the session has two states, one before the
cycle writes and one after, and how far the cycle has come tells which. A `Turn` says what these
states are, what the answer to the renewal may bring, and what those who wait may be told. It serves
renewals that succeed and renewals that fail alike, since all that counts is that the cycle writes
while it still fills the slot.

`Turn.Phase` is how far the cycle has come. Callers read three things off it: which session they
will find, that the cycle exists, and what they will be told (`Turn.Phase.outcome?`). The cycle
itself can only go forward (`Turn.Phase.advanceCycle`, `Turn.Phase.goOn`).
-/

namespace AdminConsole

open AdminConsole.Time

/-- What one cycle makes of a session: the refresh token that it presents, the session before and
after it, what the answer may bring, and what may be told. -/
structure Turn where
  used : String
  before : TokenPair
  after : TokenPair
  brings : Except RenewalFailure RenewedTokens → Prop
  tells : RenewalOutcome → Prop
  holds : before.refresh = some used
  changes : before ≠ after
  writes : ∀ tokens, brings tokens → Store.settled tokens before = after
  reports : ∀ tokens, brings tokens → tells (tokens.map RenewedTokens.access)

namespace Turn

variable {β : Type} {t : Turn} {n : CycleId} {c c' : Console β}

/-- How far the cycle has come, which is to be the one at position `n`. -/
inductive Phase (t : Turn) (n : CycleId) (c : Console β) : Prop
  | idle (hlength : c.cycles.length = n) (hsession : c.store.session = t.before)
      (hslot : c.pending = none)
  | renewing {stage : CycleStage} (hlength : c.cycles.length = n + 1)
      (hsession : c.store.session = t.before) (hslot : c.pending = some n)
      (hcycle : c.cycles[n]? = some ⟨t.used, stage⟩)
      (hstage : stage = .ready ∨ stage = .inFlight ∨
        ∃ tokens, t.brings tokens ∧ stage = .answered tokens)
  | written {stage : CycleStage} {outcome : RenewalOutcome} (hlength : c.cycles.length = n + 1)
      (hsession : c.store.session = t.after) (hslot : c.pending = none ∨ c.pending = some n)
      (hcycle : c.cycles[n]? = some ⟨t.used, stage⟩) (htells : t.tells outcome)
      (hstage : stage = .written outcome ∨ stage = .released outcome ∨ stage = .settled outcome)

namespace Phase

theorem congr (h : t.Phase n c) (hcycles : c'.cycles = c.cycles)
    (hsession : c'.store.session = c.store.session) (hslot : c'.pending = c.pending) :
    t.Phase n c' := by
  cases h with
  | idle hlength hbefore hnone =>
    exact .idle (hcycles ▸ hlength) (hsession.trans hbefore) (hslot.trans hnone)
  | renewing hlength hbefore hn hcycle hstage =>
    exact .renewing (hcycles ▸ hlength) (hsession.trans hbefore) (hslot.trans hn)
      (hcycles ▸ hcycle) hstage
  | written hlength hafter hn hcycle htells hstage =>
    exact .written (hcycles ▸ hlength) (hsession.trans hafter) (hslot ▸ hn) (hcycles ▸ hcycle)
      htells hstage

/-! ### What callers read off the phase -/

theorem session (h : t.Phase n c) :
    c.store.session = t.before ∨ c.store.session = t.after := by
  cases h with
  | idle _ hsession _ => exact Or.inl hsession
  | renewing _ hsession _ _ _ => exact Or.inl hsession
  | written _ hsession _ _ _ _ => exact Or.inr hsession

/-- A session that has changed was changed by the cycle, which exists by then. -/
theorem started_of_after (h : t.Phase n c) (hafter : c.store.session = t.after) :
    n < c.cycles.length := by
  cases h with
  | idle _ hsession _ => exact absurd (hsession.symm.trans hafter) t.changes
  | renewing hlength _ _ _ _ => exact hlength ▸ Nat.lt_succ_self n
  | written hlength _ _ _ _ _ => exact hlength ▸ Nat.lt_succ_self n

/-- Before the session has changed there is no cycle yet, or the slot holds it. -/
theorem slot_of_before (h : t.Phase n c) (hbefore : c.store.session = t.before) :
    c.pending = none ∧ c.cycles.length = n ∨ c.pending = some n ∧ c.cycles.length = n + 1 := by
  cases h with
  | idle hlength _ hslot => exact Or.inl ⟨hslot, hlength⟩
  | renewing hlength _ hslot _ _ => exact Or.inr ⟨hslot, hlength⟩
  | written _ hsession _ _ _ _ => exact absurd (hbefore.symm.trans hsession) t.changes

/-- The session has changed already, but the slot may not have been emptied yet. -/
theorem slot_of_after (h : t.Phase n c) (hafter : c.store.session = t.after) :
    c.pending = none ∨ c.pending = some n := by
  cases h with
  | idle _ hsession _ => exact absurd (hsession.symm.trans hafter) t.changes
  | renewing _ hsession _ _ _ => exact absurd (hsession.symm.trans hafter) t.changes
  | written _ _ hslot _ _ _ => exact hslot

/-- What is told was written before. -/
theorem outcome? (h : t.Phase n c) :
    c.outcome? n = none ∨
      ∃ outcome, c.outcome? n = some outcome ∧ t.tells outcome ∧ c.store.session = t.after := by
  cases h with
  | idle hlength hsession hslot =>
    have hnone : c.cycles[n]? = none := List.getElem?_eq_none (Nat.le_of_eq hlength)
    exact Or.inl (by rw [Console.outcome?, hnone]; rfl)
  | renewing hlength hsession hslot hcycle hstage =>
    rw [Console.outcome?, hcycle]
    rcases hstage with rfl | rfl | ⟨tokens, -, rfl⟩ <;> exact Or.inl rfl
  | written hlength hsession hslot hcycle htells hstage =>
    rw [Console.outcome?, hcycle]
    rcases hstage with rfl | rfl | rfl
    · exact Or.inl rfl
    · exact Or.inl rfl
    · exact Or.inr ⟨_, rfl, htells, hsession⟩

/-! ### The steps of the cycle -/

/-- Another cycle going on does not matter. -/
theorem set_of_ne (h : t.Phase n c) {id : CycleId} (hne : id ≠ n) (cycle : Cycle) :
    t.Phase n { c with cycles := c.cycles.set id cycle } := by
  cases h with
  | idle hlength hsession hslot => exact .idle (List.length_set.trans hlength) hsession hslot
  | renewing hlength hsession hslot hcycle hstage =>
    exact .renewing (List.length_set.trans hlength) hsession hslot
      ((List.getElem?_set_ne hne).trans hcycle) hstage
  | written hlength hsession hslot hcycle htells hstage =>
    exact .written (List.length_set.trans hlength) hsession hslot
      ((List.getElem?_set_ne hne).trans hcycle) htells hstage

/-- The cycle is started. -/
theorem start (hlength : c.cycles.length = n) (hsession : c.store.session = t.before) :
    t.Phase n { c with
      pending := some n
      cycles := c.cycles ++ [{ refreshToken := t.used }] } :=
  .renewing (by simp [hlength]) hsession rfl (hlength ▸ List.getElem?_concat_length) (Or.inl rfl)

/-- The renewal is answered. -/
theorem goOn (h : t.Phase n c) (id : CycleId) {tokens : Except RenewalFailure RenewedTokens}
    (hbrings : t.brings tokens) : t.Phase n (c.goOn id (.answered tokens)) := by
  by_cases hid : ∃ refreshToken, c.cycles[id]? = some ⟨refreshToken, .inFlight⟩
  case neg =>
    rw [Console.goOn_of_not_inFlight _ (not_exists.mp hid)]
    exact h
  obtain ⟨refreshToken, hid⟩ := hid
  have hlt := (List.getElem?_eq_some_iff.mp hid).1
  rw [Console.goOn_of_inFlight _ hid]
  by_cases hne : id = n
  case neg => exact h.set_of_ne hne _
  subst hne
  cases h with
  | idle hlength hsession hslot => exact absurd hlt (hlength ▸ Nat.lt_irrefl _)
  | renewing hlength hsession hslot hcycle hstage =>
    have hused : refreshToken = t.used := by
      rw [hid] at hcycle
      exact congrArg Cycle.refreshToken (Option.some_inj.mp hcycle)
    subst hused
    exact .renewing (List.length_set.trans hlength) hsession hslot (List.getElem?_set_self hlt)
      (Or.inr (Or.inr ⟨tokens, hbrings, rfl⟩))
  | written hlength hsession hslot hcycle htells hstage =>
    rw [hid] at hcycle
    rcases hstage with rfl | rfl | rfl <;> cases hcycle

/-- Every cycle but the one at position `n` has settled. -/
theorem settled (h : t.Phase n c) (hflight : c.SingleFlight) {id : CycleId} (hne : id ≠ n)
    (hid : id < c.cycles.length) : c.Settled id := by
  refine (Console.settled_or_unsettled hid).resolve_left fun hunsettled => ?_
  have hslot := (hflight.slot id).mpr hunsettled
  cases h with
  | idle _ _ hnone => simp [hnone] at hslot
  | renewing _ _ hn _ _ => exact hne (Option.some_inj.mp (hslot.symm.trans hn))
  | written _ _ hn _ _ _ =>
    rcases hn with hn | hn
    · simp [hn] at hslot
    · exact hne (Option.some_inj.mp (hslot.symm.trans hn))

/-- No cycle is answered but the one at position `n`, and that one as it should be. -/
theorem brings_of_answered (h : t.Phase n c) (hflight : c.SingleFlight) {id : CycleId}
    {used : String} {tokens : Except RenewalFailure RenewedTokens}
    (hid : c.cycles[id]? = some ⟨used, .answered tokens⟩) : t.brings tokens := by
  by_cases hne : id = n
  case neg =>
    obtain ⟨cycle, hsettled, hstage⟩ :=
      h.settled hflight hne (List.getElem?_eq_some_iff.mp hid).1
    rw [hid, Option.some_inj] at hsettled
    subst hsettled
    cases hstage
  subst hne
  cases h with
  | idle hlength hsession hslot =>
    exact absurd (List.getElem?_eq_some_iff.mp hid).1 (hlength ▸ Nat.lt_irrefl _)
  | renewing hlength hsession hslot hcycle hstage =>
    rw [hid] at hcycle
    rcases hstage with rfl | rfl | ⟨brought, hbrings, rfl⟩
    · cases hcycle
    · cases hcycle
    · cases hcycle
      exact hbrings
  | written hlength hsession hslot hcycle htells hstage =>
    rw [hid] at hcycle
    rcases hstage with rfl | rfl | rfl <;> cases hcycle

/-- Once the session has changed, one renewal was sent for each cycle, the one at `n` included. -/
theorem renewalsSent_of_after (h : t.Phase n c) (hflight : c.SingleFlight)
    (hafter : c.store.session = t.after) : c.renewalsSent = n + 1 := by
  have hphase := h
  cases h with
  | idle hlength hsession hslot => exact absurd (hsession.symm.trans hafter) t.changes
  | renewing hlength hsession hslot hcycle hstage =>
    exact absurd (hsession.symm.trans hafter) t.changes
  | written hlength hsession hslot hcycle htells hstage =>
    rw [← hlength]
    refine hflight.renewalsSent_eq fun id cycle hid => ?_
    by_cases hne : id = n
    · rw [hne, hcycle, Option.some_inj] at hid
      subst hid
      rcases hstage with rfl | rfl | rfl <;> rfl
    · exact (hphase.settled hflight hne (List.getElem?_eq_some_iff.mp hid).1).isReady hid

/-- Once the end of the cycle is told, the slot is empty. -/
theorem slot_of_told (h : t.Phase n c) (hflight : c.SingleFlight) {outcome : RenewalOutcome}
    (htold : c.outcome? n = some outcome) : c.pending = none := by
  cases h with
  | idle hlength hsession hslot => exact hslot
  | renewing hlength hsession hslot hcycle hstage =>
    rw [Console.outcome?, hcycle] at htold
    rcases hstage with rfl | rfl | ⟨tokens, -, rfl⟩ <;> cases htold
  | written hlength hsession hslot hcycle htells hstage =>
    refine hslot.resolve_right fun hn => ?_
    obtain ⟨cycle, hid, hunsettled⟩ := (hflight.slot n).mp hn
    rw [hcycle, Option.some_inj] at hid
    subst hid
    rw [Console.outcome?, hcycle] at htold
    rcases hstage with rfl | rfl | rfl
    · cases htold
    · cases htold
    · cases hunsettled

variable [Backend β]

/-- **Steps of the cycle.** The cycle goes on, and does not undo what it has written. -/
theorem advanceCycle (h : t.Phase n c) (hflight : c.SingleFlight) (now : Moment)
    (id : CycleId) :
    t.Phase n (c.advanceCycle now id) ∧
      (c.store.session = t.after → (c.advanceCycle now id).store.session = t.after) := by
  by_cases hid : id < c.cycles.length
  case neg =>
    rw [Console.advanceCycle_of_getElem?_none (List.getElem?_eq_none (Nat.le_of_not_lt hid))]
    exact ⟨h, fun hafter => hafter⟩
  -- every other cycle has settled, so only the steps of the one at `n` matter
  by_cases hne : id = n
  case neg =>
    obtain ⟨cycle, heq⟩ := Console.exists_advanceCycle_of_settled (h.settled hflight hne hid) now
    rw [heq]
    exact ⟨h.set_of_ne hne cycle, fun hafter => hafter⟩
  subst hne
  cases h with
  | idle hlength hsession hslot => exact absurd hid (hlength ▸ Nat.lt_irrefl _)
  | renewing hlength hsession hslot hcycle hstage =>
    rcases hstage with rfl | rfl | ⟨tokens, hbrings, rfl⟩
    · rw [Console.advanceCycle_ready now hcycle]
      refine ⟨.renewing (List.length_set.trans hlength) hsession hslot
        (List.getElem?_set_self hid) (Or.inr (Or.inl rfl)), fun hafter => hafter⟩
    · rw [Console.advanceCycle_of_rests now hcycle rfl]
      exact ⟨.renewing hlength hsession hslot hcycle (Or.inr (Or.inl rfl)), fun hafter => hafter⟩
    -- the step that changes the session, with the cycle still in the slot
    · have hholds : c.store.session.refresh = some t.used := hsession ▸ t.holds
      have hafter : (c.store.settle now t.used tokens).2.session = t.after := by
        rw [Store.session_settle_of_holds hholds, hsession]
        exact t.writes tokens hbrings
      rw [Console.advanceCycle_answered now hcycle, Store.outcome_settle_of_holds hholds]
      exact ⟨.written (List.length_set.trans hlength) hafter (Or.inr hslot)
        (List.getElem?_set_self hid) (t.reports tokens hbrings) (Or.inl rfl), fun _ => hafter⟩
  | written hlength hsession hslot hcycle htells hstage =>
    rcases hstage with rfl | rfl | rfl
    · rw [Console.advanceCycle_written now hcycle ((hflight.slot id).mpr ⟨_, hcycle, rfl⟩)]
      exact ⟨.written (List.length_set.trans hlength) hsession (Or.inl rfl)
        (List.getElem?_set_self hid) htells (Or.inr (Or.inl rfl)), fun hafter => hafter⟩
    · rw [Console.advanceCycle_released now hcycle]
      exact ⟨.written (List.length_set.trans hlength) hsession hslot
        (List.getElem?_set_self hid) htells (Or.inr (Or.inr rfl)), fun hafter => hafter⟩
    · rw [Console.advanceCycle_of_rests now hcycle rfl]
      exact ⟨.written hlength hsession hslot hcycle htells (Or.inr (Or.inr rfl)),
        fun hafter => hafter⟩

end Phase

end Turn

end AdminConsole
