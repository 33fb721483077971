import AdminConsole.Redirector
import Mathlib.Data.List.Induction

/-!
# What a redirector remembers

A redirector is told of requests that failed for good, each with the generation of its session, and
of the user's signing in. It keeps one generation and two counters, but what it does can be read off
the whole history of what it was told (`Redirector.redirects_by_history`). The generation that it
keeps is that of the latest eligible failure since the user signed in: an eligible failure either is
the first one of its generation, and then that generation is what is kept, or finds its generation
kept already. So a generation that comes back after another one makes a navigation again.

The history is looked at backwards from its end. `Since` is the shape that all questions to it have,
and `since_append_singleton` the answer in terms of the last entry and of what came before it.
-/

namespace AdminConsole

/-! ### Histories -/

/-- A list that ends in `b` is cut in front of `b` or before. -/
theorem cut_append_singleton {α : Type} {l l₁ l₂ : List α} {a b : α}
    (h : l ++ [b] = l₁ ++ a :: l₂) :
    (l = l₁ ∧ b = a ∧ l₂ = []) ∨ ∃ l₃, l₂ = l₃ ++ [b] ∧ l = l₁ ++ a :: l₃ := by
  rcases List.eq_nil_or_concat l₂ with rfl | ⟨l₃, m, rfl⟩
  · obtain ⟨hinit, hlast⟩ := List.append_inj' h rfl
    exact Or.inl ⟨hinit, List.singleton_inj.mp hlast, rfl⟩
  · rw [List.concat_eq_append, ← List.cons_append, ← List.append_assoc] at h
    obtain ⟨hinit, hlast⟩ := List.append_inj' h rfl
    obtain rfl := List.singleton_inj.mp hlast
    exact Or.inr ⟨l₃, List.concat_eq_append, hinit⟩

/-- Something of the one kind is in a history, and all that has come since is of the other. -/
def Since {α : Type} (p q : α → Prop) (h : List α) : Prop :=
  ∃ before a after, h = before ++ a :: after ∧ p a ∧ ∀ b ∈ after, q b

section Since

variable {α : Type} {p q : α → Prop} {h : List α} {b : α}

theorem not_since_nil : ¬ Since p q [] := by
  rintro ⟨before, a, after, heq, -⟩
  simp at heq

theorem since_append_singleton : Since p q (h ++ [b]) ↔ p b ∨ q b ∧ Since p q h := by
  constructor
  · rintro ⟨before, a, after, heq, ha, hafter⟩
    rcases cut_append_singleton heq with ⟨-, rfl, -⟩ | ⟨earlier, rfl, hinit⟩
    · exact Or.inl ha
    · have hb : q b := hafter b (by simp)
      have hearlier : ∀ c ∈ earlier, q c := fun c hc => hafter c (List.mem_append_left _ hc)
      exact Or.inr ⟨hb, before, a, earlier, hinit, ha, hearlier⟩
  · rintro (hb | ⟨hb, before, a, after, rfl, ha, hafter⟩)
    · exact ⟨h, b, [], rfl, hb, fun _ hnil => nomatch hnil⟩
    · refine ⟨before, a, after ++ [b], by simp, ha, fun c hc => ?_⟩
      rcases List.mem_append.mp hc with hc | hc
      · exact hafter c hc
      · exact List.mem_singleton.mp hc ▸ hb

end Since

/-! ### One signal -/

/-- What the redirector is told. -/
inductive Signal where
  /-- A request has failed for good in a session of this generation. -/
  | lost (request : Request) (generation : Nat)
  /-- The user has signed in. -/
  | signedIn

namespace Redirector

variable {request : Request} {generation : Nat} {r : Redirector}

theorem eligible_iff :
    r.eligible request = true ↔
      request.options.silent = false ∧ request.route ≠ r.loginPath := by
  rw [eligible, Bool.and_eq_true, Bool.not_eq_true', bne_iff_ne]

/-- The redirector that remembers to have sent the user away in a session of this generation. -/
def sentAway (generation : Nat) (r : Redirector) : Redirector :=
  { r with onLogin := some generation }

/-- A navigation is to be made on account of an eligible request, unless it was made in this
generation before. -/
theorem mark_fst_eq_true :
    (r.mark request generation).1 = true ↔
      r.eligible request = true ∧ r.onLogin ≠ some generation := by
  unfold mark
  split <;> rename_i h
  · exact iff_of_true rfl h
  · exact iff_of_false Bool.false_ne_true h

theorem mark_snd_of_fst (h : (r.mark request generation).1 = true) :
    (r.mark request generation).2 = r.sentAway generation := by
  rw [mark, if_pos (mark_fst_eq_true.mp h)]
  rfl

theorem mark_snd_of_not_fst (h : (r.mark request generation).1 = false) :
    (r.mark request generation).2 = r := by
  rw [mark, if_neg fun hboth => ?_]
  rw [mark_fst_eq_true.mpr hboth] at h
  cases h

/-- Only a request that is not silent makes a navigation, and only the first one in a session. -/
theorem mark_eq_or (request : Request) (generation : Nat) (r : Redirector) :
    r.mark request generation = (false, r) ∨
      request.options.silent = false ∧ r.onLogin ≠ some generation ∧
        r.mark request generation = (true, r.sentAway generation) := by
  cases hfst : (r.mark request generation).1 with
  | false => exact Or.inl (Prod.ext hfst (mark_snd_of_not_fst hfst))
  | true =>
    obtain ⟨heligible, hfirst⟩ := mark_fst_eq_true.mp hfst
    exact Or.inr ⟨(eligible_iff.mp heligible).1, hfirst, Prod.ext hfst (mark_snd_of_fst hfst)⟩

theorem loginPath_mark (request : Request) (generation : Nat) (r : Redirector) :
    (r.mark request generation).2.loginPath = r.loginPath := by
  rcases mark_eq_or request generation r with heq | ⟨-, -, heq⟩ <;> rw [heq]
  rfl

/-- After a request that is not silent the user is at the login page. -/
theorem onLogin_mark (hsilent : request.options.silent = false)
    (hroute : request.route ≠ r.loginPath) (generation : Nat) :
    (r.mark request generation).2.onLogin = some generation := by
  have heligible : r.eligible request = true := eligible_iff.mpr ⟨hsilent, hroute⟩
  unfold mark
  split <;> rename_i h
  · rfl
  · exact Decidable.not_not.mp fun hfirst => h ⟨heligible, hfirst⟩

/-- Whoever is at the login page in this session stays there. -/
theorem onLogin_mark_of_onLogin (h : r.onLogin = some generation) (request : Request) :
    (r.mark request generation).2.onLogin = some generation := by
  rw [mark, if_neg fun hboth => hboth.2 h]
  exact h

/-- A request that is silent or went to the login page changes nothing. -/
theorem mark_of_not_eligible (h : ¬ r.eligible request = true) (generation : Nat) :
    r.mark request generation = (false, r) :=
  if_neg fun hboth => h hboth.1

theorem redirect_fst (request : Request) (generation : Nat) (r : Redirector) :
    (r.redirect request generation).1 = (r.mark request generation).1 := by
  rw [redirect]
  split <;> rename_i heq <;> rw [heq]

/-- A navigation changes nothing but what is counted. -/
theorem redirect_snd (request : Request) (generation : Nat) (r : Redirector) :
    (r.redirect request generation).2 =
      bif (r.mark request generation).1 then (r.mark request generation).2.navigate
      else (r.mark request generation).2 := by
  rw [redirect]
  split <;> rename_i heq <;> rw [heq] <;> rfl

theorem onLogin_redirect (request : Request) (generation : Nat) (r : Redirector) :
    (r.redirect request generation).2.onLogin = (r.mark request generation).2.onLogin := by
  rw [redirect_snd]
  cases (r.mark request generation).1 <;> rfl

theorem loginPath_redirect (request : Request) (generation : Nat) (r : Redirector) :
    (r.redirect request generation).2.loginPath = r.loginPath := by
  refine Eq.trans ?_ (loginPath_mark request generation r)
  rw [redirect_snd]
  cases (r.mark request generation).1 <;> rfl

theorem redirect_of_not_eligible (h : ¬ r.eligible request = true) (generation : Nat) :
    r.redirect request generation = (false, r) := by
  rw [redirect, mark_of_not_eligible h]

/-- The redirector after it was told something. -/
def heed (signal : Signal) (r : Redirector) : Redirector :=
  match signal with
  | .lost request generation => (r.redirect request generation).2
  | .signedIn => r.rearm

end Redirector

/-! ### All signals -/

/-- A failure on account of which the user may be sent away: that of a request that is neither
silent nor one to the login page. -/
def Signal.IsEligible (loginPath : String) : Signal → Prop
  | .lost request _ => request.options.silent = false ∧ request.route ≠ loginPath
  | .signedIn => False

/-- An eligible failure has come since the user signed in. -/
def LostSince (loginPath : String) (signals : List Signal) : Prop :=
  Since (·.IsEligible loginPath) (· ≠ .signedIn) signals

/-- The latest eligible failure since the user signed in was one in a session of this generation. -/
def LastLost (loginPath : String) (generation : Nat) (signals : List Signal) : Prop :=
  Since (fun signal => signal.IsEligible loginPath ∧ ∃ request, signal = .lost request generation)
    (fun signal => signal ≠ .signedIn ∧ ¬ signal.IsEligible loginPath) signals

section History

variable {loginPath : String} {signals : List Signal} {request : Request} {generation g : Nat}

theorem not_lostSince_signedIn : ¬ LostSince loginPath (signals ++ [.signedIn]) := by
  rw [LostSince, since_append_singleton]
  rintro (heligible | ⟨hne, -⟩)
  · exact heligible
  · exact hne rfl

theorem not_lastLost_signedIn : ¬ LastLost loginPath g (signals ++ [.signedIn]) := by
  rw [LastLost, since_append_singleton]
  rintro (⟨heligible, -⟩ | ⟨⟨hne, -⟩, -⟩)
  · exact heligible
  · exact hne rfl

theorem lostSince_of_isEligible (h : Signal.IsEligible loginPath (.lost request generation)) :
    LostSince loginPath (signals ++ [.lost request generation]) :=
  since_append_singleton.mpr (Or.inl h)

theorem lastLost_iff_of_isEligible (h : Signal.IsEligible loginPath (.lost request generation)) :
    LastLost loginPath g (signals ++ [.lost request generation]) ↔ generation = g := by
  rw [LastLost, since_append_singleton]
  constructor
  · rintro (⟨-, asked, heq⟩ | ⟨⟨-, hnot⟩, -⟩)
    · exact (Signal.lost.inj heq).2
    · exact absurd h hnot
  · rintro rfl
    exact Or.inl ⟨h, request, rfl⟩

theorem lostSince_iff_of_not_isEligible
    (h : ¬ Signal.IsEligible loginPath (.lost request generation)) :
    LostSince loginPath (signals ++ [.lost request generation]) ↔ LostSince loginPath signals := by
  rw [LostSince, since_append_singleton, or_iff_right h, and_iff_right nofun]
  rfl

theorem lastLost_iff_of_not_isEligible
    (h : ¬ Signal.IsEligible loginPath (.lost request generation)) :
    LastLost loginPath g (signals ++ [.lost request generation]) ↔
      LastLost loginPath g signals := by
  rw [LastLost, since_append_singleton, or_iff_right fun hboth => h hboth.1,
    and_iff_right ⟨nofun, h⟩]
  rfl

end History

namespace Redirector

/-- The redirector after it was told one thing after the other. -/
def heedAll (signals : List Signal) (r : Redirector) : Redirector :=
  signals.foldl (fun r signal => r.heed signal) r

/-- For each failure that the redirector is told of, whether it makes a navigation. -/
def answers (r : Redirector) : List Signal → List Bool
  | [] => []
  | .lost request generation :: rest =>
    (r.redirect request generation).1 :: answers (r.redirect request generation).2 rest
  | .signedIn :: rest => answers r.rearm rest

variable {loginPath : String} {signals : List Signal} {r : Redirector}

theorem heedAll_append_singleton (signals : List Signal) (signal : Signal) (r : Redirector) :
    r.heedAll (signals ++ [signal]) = (r.heedAll signals).heed signal := by
  rw [heedAll, List.foldl_append]
  rfl

/-- A navigation is counted, and shown to the user. -/
theorem navigations_redirect (request : Request) (generation : Nat) (r : Redirector) :
    (r.redirect request generation).2.navigations =
        r.navigations + (r.redirect request generation).1.toNat ∧
      (r.redirect request generation).2.navigatorCalls =
        r.navigatorCalls + (r.redirect request generation).1.toNat := by
  rw [redirect_snd, redirect_fst]
  rcases mark_eq_or request generation r with heq | ⟨-, -, heq⟩ <;> rw [heq] <;>
    exact ⟨rfl, rfl⟩

theorem count_true_cons (b : Bool) (bs : List Bool) :
    (b :: bs).count true = b.toNat + bs.count true := by
  rw [List.count_cons, Nat.add_comm]
  cases b <;> rfl

/-- Every navigation is counted, and shown to the user. -/
theorem navigations_heedAll (signals : List Signal) (r : Redirector) :
    (r.heedAll signals).navigations = r.navigations + (r.answers signals).count true ∧
      (r.heedAll signals).navigatorCalls = r.navigatorCalls + (r.answers signals).count true := by
  induction signals generalizing r with
  | nil => exact ⟨rfl, rfl⟩
  | cons signal rest ih =>
    cases signal with
    | signedIn => exact ih r.rearm
    | lost request generation =>
      obtain ⟨hnavigations, hcalls⟩ := navigations_redirect request generation r
      obtain ⟨hrest, hrestCalls⟩ := ih (r.redirect request generation).2
      rw [answers, count_true_cons, ← Nat.add_assoc, ← Nat.add_assoc, ← hnavigations, ← hcalls]
      exact ⟨hrest, hrestCalls⟩

/-- What the redirector remembers of its history. -/
structure Recalls (loginPath : String) (signals : List Signal) (r : Redirector) : Prop where
  loginPath_eq : r.loginPath = loginPath
  onLogin_iff : ∀ g, r.onLogin = some g ↔ LastLost loginPath g signals
  isOnLogin_iff : r.isOnLogin = true ↔ LostSince loginPath signals

theorem recalls_nil (loginPath : String) : Recalls loginPath [] { loginPath := loginPath } where
  loginPath_eq := rfl
  onLogin_iff _ := iff_of_false nofun not_since_nil
  isOnLogin_iff := iff_of_false nofun not_since_nil

namespace Recalls

variable {request : Request} {generation : Nat}

theorem eligible_iff (h : Recalls loginPath signals r) (request : Request) (generation : Nat) :
    r.eligible request = true ↔ Signal.IsEligible loginPath (.lost request generation) := by
  rw [Redirector.eligible_iff, h.loginPath_eq]
  rfl

theorem rearm (h : Recalls loginPath signals r) :
    Recalls loginPath (signals ++ [.signedIn]) r.rearm where
  loginPath_eq := h.loginPath_eq
  onLogin_iff _ := iff_of_false nofun not_lastLost_signedIn
  isOnLogin_iff := iff_of_false nofun not_lostSince_signedIn

theorem redirect (h : Recalls loginPath signals r) :
    Recalls loginPath (signals ++ [.lost request generation])
      (r.redirect request generation).2 := by
  by_cases heligible : Signal.IsEligible loginPath (.lost request generation)
  · -- the generation is kept, whether it was kept before or not
    have honLogin : (r.redirect request generation).2.onLogin = some generation :=
      (onLogin_redirect request generation r).trans
        (onLogin_mark heligible.1 (h.loginPath_eq ▸ heligible.2) generation)
    refine ⟨(loginPath_redirect request generation r).trans h.loginPath_eq, fun g => ?_, ?_⟩
    · rw [honLogin, lastLost_iff_of_isEligible heligible]
      exact Option.some_inj
    · rw [isOnLogin, honLogin]
      exact iff_of_true rfl (lostSince_of_isEligible heligible)
  · rw [redirect_of_not_eligible fun hr => heligible ((h.eligible_iff _ _).mp hr)]
    refine ⟨h.loginPath_eq, fun g => ?_, ?_⟩
    · exact (h.onLogin_iff g).trans (lastLost_iff_of_not_isEligible heligible).symm
    · exact h.isOnLogin_iff.trans (lostSince_iff_of_not_isEligible heligible).symm

end Recalls

/-- Whatever a redirector was told, it remembers of it what there is to remember. -/
theorem recalls_heedAll (loginPath : String) (signals : List Signal) :
    Recalls loginPath signals (heedAll signals { loginPath := loginPath }) := by
  induction signals using List.reverseRecOn with
  | nil => exact recalls_nil loginPath
  | append_singleton signals signal ih =>
    rw [heedAll_append_singleton]
    cases signal with
    | signedIn => exact ih.rearm
    | lost request generation => exact ih.redirect

/-- **Navigations by history.** Whatever a redirector was told so far: it makes a navigation on
account of the next failure exactly if that is an eligible one, and the latest eligible failure
since the user signed in, if there was one, was in a session of another generation. It has made and
counted as many navigations as it has answered that it makes one. And it takes the user to be on the
login page exactly if there was an eligible failure since the user signed in. -/
theorem redirects_by_history (loginPath : String) (signals : List Signal) :
    let r := heedAll signals { loginPath := loginPath }
    (∀ request generation, (r.redirect request generation).1 = true ↔
        (request.options.silent = false ∧ request.route ≠ loginPath) ∧
          ∀ g, LastLost loginPath g signals → g ≠ generation) ∧
      r.navigations = (answers { loginPath := loginPath } signals).count true ∧
      r.navigatorCalls = (answers { loginPath := loginPath } signals).count true ∧
      (r.isOnLogin = true ↔ LostSince loginPath signals) := by
  intro r
  have hrecalls : Recalls loginPath signals r := recalls_heedAll loginPath signals
  obtain ⟨hnavigations, hcalls⟩ := navigations_heedAll signals { loginPath := loginPath }
  refine ⟨fun request generation => ?_, ?_, ?_, hrecalls.isOnLogin_iff⟩
  · rw [redirect_fst, mark_fst_eq_true]
    refine and_congr (hrecalls.eligible_iff request generation) ?_
    constructor
    · rintro hne g hlast rfl
      exact hne ((hrecalls.onLogin_iff g).mpr hlast)
    · intro hlast honLogin
      exact hlast generation ((hrecalls.onLogin_iff generation).mp honLogin) rfl
  · rw [hnavigations]
    exact Nat.zero_add _
  · rw [hcalls]
    exact Nat.zero_add _

/-- A generation that comes back after another one makes a navigation again. -/
example :
    answers { loginPath := "/login" }
      [.lost { method := .get, path := "/a" } 1, .lost { method := .get, path := "/a" } 1,
        .lost { method := .get, path := "/login?x" } 2, .lost { method := .get, path := "/a" } 2,
        .lost { method := .get, path := "/a" } 1, .signedIn,
        .lost { method := .get, path := "/a" } 1] =
      [true, false, false, true, true, true] := by
  decide

end Redirector

end AdminConsole
