import AdminConsole.Proofs.Console.Stretch

/-!
# Attaching credentials without interruption

A caller reads the store once a step, so that others may write it in between. Where nobody does,
the steps come to what `authenticate` does on the store as it is: `glide_preparing` says so for a
list of attachments, and `glide_start` for a request with all that is attached to it.
-/

namespace AdminConsole

open AdminConsole.Time

namespace Attachment

variable {β : Type}

theorem cost_pos (a : Attachment) : 0 < a.cost := by
  cases a with
  | bearer sources => exact Nat.succ_pos _
  | tunnelToken => exact Nat.one_pos
  | peer => exact Nat.one_pos

/-- An attachment that goes on has not failed. -/
theorem failure_of_remaining {store : Store β} {request : Request} {a b : Attachment}
    (h : (a.attach store request).remaining = some b) :
    (a.attach store request).failure = none := by
  cases a with
  | bearer sources =>
    cases sources with
    | nil => rfl
    | cons key keys =>
      simp only [attach] at h ⊢
      split at h
      · cases hbearer : withBearer request _ with
        | ok r => rfl
        | error e =>
          rw [hbearer] at h
          cases h
      · rfl
  | tunnelToken =>
    simp only [attach] at h
    split at h
    · cases htoken : withTunnelToken request _ with
      | ok r =>
        rw [htoken] at h
        cases h
      | error e =>
        rw [htoken] at h
        cases h
    · cases h
  | peer =>
    simp only [attach] at h
    split at h <;> cases h

theorem attachAll_of_remaining {store : Store β} {request : Request} {a b : Attachment}
    (h : (a.attach store request).remaining = some b) :
    attachAll store request a = attachAll store (a.attach store request).request b := by
  rw [attachAll]
  split <;> simp_all

theorem attachAll_of_not_remaining {store : Store β} {request : Request} {a : Attachment}
    (h : (a.attach store request).remaining = none) :
    attachAll store request a =
      ((a.attach store request).request, (a.attach store request).failure) := by
  rw [attachAll]
  split <;> simp_all

/-- How many readings of the store a list of attachments takes at most. -/
def costs : List Attachment → Nat
  | [] => 0
  | a :: rest => a.cost + costs rest

/-- Nothing that is attached takes more than four readings. -/
theorem costs_plan_le (request : Request) (scope : Scope) : costs (plan request scope) ≤ 4 := by
  unfold plan
  split
  · decide
  · cases scope with
    | tunnelClientOrServer =>
      simp only [ofScope]
      split <;> decide
    | _ => simp only [ofScope]; decide

end Attachment

/-- A request once all is attached to it, or why it cannot be sent. -/
def Exchange.attached (scope : Scope) : Request × Option ApiError → Exchange
  | (request, none) => .preparing request scope []
  | (_, some e) => .finished (.error e)

namespace Console

variable {β : Type} [Backend β] (now : Moment) (caller : Nat) (goal : Goal) (scope : Scope)

open Attachment

/-- One attachment, with all its readings. -/
theorem glide_attachAll (c : Console β) (request : Request) (a : Attachment)
    (rest : List Attachment) :
    ∃ n, n ≤ a.cost ∧ ∀ limit,
      glide now caller (n + limit) (.exchange goal (.preparing request scope (a :: rest))) c =
        glide now caller limit
          (.exchange goal
            (match attachAll c.store request a with
              | (r, none) => .preparing r scope rest
              | (_, some e) => .finished (.error e))) c := by
  induction request, a using attachAll.induct c.store with
  | case1 request a b hremaining ih =>
    obtain ⟨n, hn, hglide⟩ := ih
    have hlt := cost_remaining_lt c.store request a b hremaining
    refine ⟨n + 1, by omega, fun limit => ?_⟩
    rw [attachAll_of_remaining hremaining, ← hglide limit, Nat.add_right_comm, glide_succ rfl]
    simp only [stepActivity, stepExchange, failure_of_remaining hremaining, hremaining]
    rfl
  | case2 request a hremaining =>
    refine ⟨1, a.cost_pos, fun limit => ?_⟩
    rw [attachAll_of_not_remaining hremaining, Nat.add_comm, glide_succ rfl]
    cases hfailure : (a.attach c.store request).failure <;>
      simp only [stepActivity, stepExchange, hfailure, hremaining, Option.toList_none,
        List.nil_append]

/-- **Attaching.** Without interruption a request gets what the store has for it now. -/
theorem glide_preparing (c : Console β) (request : Request) (todo : List Attachment) :
    ∃ n, n ≤ costs todo ∧ ∀ limit,
      glide now caller (n + limit) (.exchange goal (.preparing request scope todo)) c =
        glide now caller limit
          (.exchange goal (.attached scope (carryOut c.store request todo))) c := by
  induction todo generalizing request with
  | nil => exact ⟨0, Nat.le_refl 0, fun limit => by rw [Nat.zero_add]; rfl⟩
  | cons a rest ih =>
    obtain ⟨n, hn, hglide⟩ := glide_attachAll now caller goal scope c request a rest
    rw [costs]
    cases hall : attachAll c.store request a with
    | mk r failure =>
      rw [hall] at hglide
      cases failure with
      | some e =>
        refine ⟨n, by omega, fun limit => ?_⟩
        rw [hglide limit, carryOut, hall]
        rfl
      | none =>
        obtain ⟨m, hm, hrest⟩ := ih r
        refine ⟨n + m, by omega, fun limit => ?_⟩
        rw [Nat.add_assoc, hglide, hrest, carryOut, hall]

/-- A request that is about to go through the console comes to what authenticating it on the store
as it is comes to. -/
theorem glide_start (c : Console β) (request : Request) :
    ∃ n, n ≤ 4 ∧ ∀ limit,
      glide now caller (n + limit) (.exchange goal (.start c.routes request)) c =
        match authenticate c.routes c.store request with
        | (.ok scope, r) => glide now caller limit (.exchange goal (.preparing r scope [])) c
        | (.error e, _) => glide now caller limit (.exchange goal (.finished (.error e))) c := by
  obtain ⟨n, hn, hglide⟩ := glide_preparing now caller goal (c.routes.classify request.path) c
    request (plan request (c.routes.classify request.path))
  refine ⟨n, Nat.le_trans hn (costs_plan_le request _), fun limit => ?_⟩
  refine (hglide limit).trans ?_
  unfold authenticate
  dsimp only
  cases carryOut c.store request (plan request (c.routes.classify request.path)) with
  | mk r failure => cases failure <;> rfl

end Console

end AdminConsole
