import AdminConsole.Proofs.Console.BoundedReplay
import AdminConsole.Proofs.Console.Causes
import AdminConsole.Proofs.Console.Moves
import AdminConsole.Proofs.Console.SharedFailure
import AdminConsole.Proofs.Console.Writes

/-!
# Ways to the login page

`Console.notices` is the history of a run as far as the login page is concerned: the navigations,
with the generation of the store in which they are made, and the times at which the user signed in.
In every run it has as many navigations as the redirector has counted, and each of them is made on
account of a request that may send the user away, since that is a matter of what a request keeps on
its way through the console (`Console.Serves`).

Whether there is one navigation for each session is a matter of three steps, in which a caller reads
the generation, tells the redirector and sends the user away. Where nothing else happens between
them (`Console.AtOnce`, which holds wherever stretches are whole), the generation that the
redirector remembers is the one of the latest navigation. Generations never go back, so every
earlier navigation since the user signed in was made in a generation that is at most the remembered
one (`Remembers.latest`), and one number is enough. Where a write comes in between, two navigations
can be made in one generation (`second_navigation_in_generation`).
-/

namespace AdminConsole

open AdminConsole.Time

/-! ### The history of navigations -/

/-- Something in the history of navigations. -/
inductive Notice where
  /-- The user is sent to the login page on a caller's account, in this generation of the store. -/
  | navigated (caller generation : Nat)
  /-- The user has signed in. -/
  | signedIn
  deriving Repr, DecidableEq

/-- A navigation was made in this generation, and the user has not signed in since. -/
def SentAwayIn (generation : Nat) (h : List Notice) : Prop :=
  ∃ h₁ caller h₂, h = h₁ ++ .navigated caller generation :: h₂ ∧ .signedIn ∉ h₂

theorem sentAwayIn_iff_since {generation : Nat} {h : List Notice} :
    SentAwayIn generation h ↔
      Since (fun n => ∃ caller, n = .navigated caller generation) (· ≠ .signedIn) h := by
  constructor
  · rintro ⟨h₁, caller, h₂, heq, hnone⟩
    exact ⟨h₁, _, h₂, heq, ⟨caller, rfl⟩, fun n hn hsigned => hnone (hsigned ▸ hn)⟩
  · rintro ⟨h₁, _, h₂, heq, ⟨caller, rfl⟩, hnone⟩
    exact ⟨h₁, caller, h₂, heq, fun hmem => hnone _ hmem rfl⟩

/-- What the last notice has to do with it. -/
theorem sentAwayIn_append_singleton {generation : Nat} {h : List Notice} {n : Notice} :
    SentAwayIn generation (h ++ [n]) ↔
      (∃ caller, n = .navigated caller generation) ∨
        n ≠ .signedIn ∧ SentAwayIn generation h := by
  rw [sentAwayIn_iff_since, since_append_singleton, ← sentAwayIn_iff_since]

/-- No navigation was made in a generation in which one had been made since the user signed in. -/
def OncePerSession (h : List Notice) : Prop :=
  ∀ h₁ caller generation h₂, h = h₁ ++ .navigated caller generation :: h₂ →
    ¬ SentAwayIn generation h₁

theorem OncePerSession.append {h : List Notice} (honce : OncePerSession h) {n : Notice}
    (hn : ∀ caller generation, n = .navigated caller generation → ¬ SentAwayIn generation h) :
    OncePerSession (h ++ [n]) := by
  intro h₁ caller generation h₂ heq
  rcases cut_append_singleton heq with ⟨rfl, hlast, -⟩ | ⟨h₃, -, hinit⟩
  · exact hn caller generation hlast
  · exact honce h₁ caller generation h₃ hinit

/-! ### What an event does to the redirector -/

/-- What an effect makes of the redirector. -/
def Effect.turn (r : Redirector) : Effect → Redirector
  | .marks request generation => (r.mark request generation).2
  | .navigates => r.navigate
  | .arms => r.rearm
  | .nothing | .sends _ | .joins _ | .writes _ => r

/-- What there is to note of the effect of a caller, while the store is of this generation. -/
def Effect.notice? (caller generation : Nat) : Effect → Option Notice
  | .navigates => some (.navigated caller generation)
  | .arms => some .signedIn
  | .nothing | .sends _ | .joins _ | .writes _ | .marks _ _ => none

theorem Activity.eq_of_effect_marks {a : Activity} {request : Request} {generation : Nat}
    (h : a.effect = .marks request generation) :
    (∃ goal said, a = .exchange goal (.redirecting request said generation)) ∨
      a = .redirecting request generation := by
  cases a with
  | exchange goal x =>
    cases x with
    | preparing request scope todo => cases todo <;> cases h
    | redirecting r said g =>
      cases h
      exact Or.inl ⟨goal, said, rfl⟩
    | _ => cases h
  | redirecting r g =>
    cases h
    exact Or.inr rfl
  | _ => cases h

theorem Activity.eq_of_effect_navigates {a : Activity} (h : a.effect = .navigates) :
    (∃ goal said, a = .exchange goal (.navigating said)) ∨ a = .navigating := by
  cases a with
  | exchange goal x =>
    cases x with
    | preparing request scope todo => cases todo <;> cases h
    | navigating said => exact Or.inl ⟨goal, said, rfl⟩
    | _ => cases h
  | navigating => exact Or.inr rfl
  | _ => cases h

namespace Console

variable {β : Type} {c : Console β}

/-- The effect of the caller that takes a step in an event. -/
def effect (e : Event) (c : Console β) : Effect :=
  match e with
  | .advance caller => (c.callers[caller]?.map Activity.effect).getD .nothing
  | _ => .nothing

/-- What there is to note of an event. -/
def notice? (e : Event) (c : Console β) : Option Notice :=
  match e with
  | .advance caller => (c.effect e).notice? caller c.store.generation
  | _ => none

theorem effect_advance {k : Nat} {a : Activity} (ha : c.callers[k]? = some a) :
    c.effect (.advance k) = a.effect := by
  rw [effect, ha]
  rfl

theorem exists_of_effect_ne_nothing {e : Event} (h : c.effect e ≠ .nothing) :
    ∃ k a, e = .advance k ∧ c.callers[k]? = some a ∧ a.effect = c.effect e := by
  cases e with
  | advance k =>
    cases ha : c.callers[k]? with
    | none =>
      rw [effect, ha] at h
      exact absurd rfl h
    | some a => exact ⟨k, a, rfl, ha, (effect_advance ha).symm⟩
  | _ => exact absurd rfl h

theorem notice?_eq_none {e : Event} (hnavigates : c.effect e ≠ .navigates)
    (harms : c.effect e ≠ .arms) : c.notice? e = none := by
  cases e with
  | advance k =>
    rw [notice?]
    cases heffect : c.effect (.advance k) with
    | navigates => exact absurd heffect hnavigates
    | arms => exact absurd heffect harms
    | _ => rfl
  | _ => rfl

/-- A navigation that is noted is made by a caller, in the generation of the store. -/
theorem eq_of_notice?_eq_navigated {e : Event} {caller generation : Nat}
    (h : c.notice? e = some (.navigated caller generation)) :
    e = .advance caller ∧ c.effect e = .navigates ∧ generation = c.store.generation := by
  cases e with
  | advance k =>
    rw [notice?] at h
    cases heffect : c.effect (.advance k) with
    | navigates =>
      rw [heffect] at h
      cases h
      exact ⟨rfl, rfl, rfl⟩
    | _ =>
      rw [heffect] at h
      cases h
  | _ => cases h

section Steps

variable [Backend β]

theorem redirector_under (now : Moment) (caller : Nat) (f : Effect) (c : Console β) :
    (c.under now caller f).redirector = f.turn c.redirector := by
  cases f with
  | joins sent => exact redirector_joinOrStart sent c
  | _ => rfl

/-- **Signals.** An event does to the redirector what its effect does, and nothing else. -/
theorem redirector_step (now : Moment) (e : Event) (c : Console β) :
    (c.step now e).redirector = (c.effect e).turn c.redirector := by
  cases e with
  | advance caller =>
    cases ha : c.callers[caller]? with
    | none =>
      rw [step, advance_of_getElem?_none ha, effect, ha]
      rfl
    | some a =>
      rw [step, advance_of_getElem? ha, effect_advance ha, ← redirector_under now caller,
        ← stepActivity_snd]
  | advanceCycle id => exact (advanceCycle_frame now id c).2.1
  | _ => exact frame_step Console.redirector (fun _ _ => rfl) rfl now

/-- The history of navigations in a run, first notice first. -/
def notices (c : Console β) : List (Moment × Event) → List Notice
  | [] => []
  | (now, e) :: rest => (c.notice? e).toList ++ notices (c.step now e) rest

end Steps

/-! ### On whose account navigations are made -/

variable {ops : List Operation} {h : List Notice}

/-- A run that has come as far as `c`: what its callers asked for, and the history of navigations.
-/
structure Accounted (ops : List Operation) (h : List Notice) (c : Console β) : Prop where
  loginPath : c.redirector.loginPath = Endpoint.signIn
  serves : c.Serves ops
  coordinated : ∀ op ∈ ops, op.isRedirect = false
  caused : ∀ caller generation, .navigated caller generation ∈ h → ∃ op request,
    ops[caller]? = some op ∧ op.request? = some request ∧ request.MaySendAway

/-- The redirector is told of lost sessions by callers whose request is over, and by nobody else. -/
theorem Accounted.of_marks (hc : c.Accounted ops h) {e : Event} {request : Request}
    {generation : Nat} (heffect : c.effect e = .marks request generation) :
    ∃ k goal said, e = .advance k ∧
      c.callers[k]? = some (.exchange goal (.redirecting request said generation)) := by
  obtain ⟨k, a, he, ha, hsame⟩ := exists_of_effect_ne_nothing (by rw [heffect]; nofun)
  rcases Activity.eq_of_effect_marks (hsame.trans heffect) with ⟨goal, said, rfl⟩ | rfl
  · exact ⟨k, goal, said, he, ha⟩
  · obtain ⟨op, hop, hserves⟩ := hc.serves.serves k _ ha
    have hredirects : op.isRedirect = true := hserves
    rw [hc.coordinated op (List.mem_of_getElem? hop)] at hredirects
    cases hredirects

/-- The user is sent away by callers whose request is over, and by nobody else. -/
theorem Accounted.of_navigates (hc : c.Accounted ops h) {e : Event}
    (heffect : c.effect e = .navigates) :
    ∃ k goal said, e = .advance k ∧
      c.callers[k]? = some (.exchange goal (.navigating said)) := by
  obtain ⟨k, a, he, ha, hsame⟩ := exists_of_effect_ne_nothing (by rw [heffect]; nofun)
  rcases Activity.eq_of_effect_navigates (hsame.trans heffect) with ⟨goal, said, rfl⟩ | rfl
  · exact ⟨k, goal, said, he, ha⟩
  · obtain ⟨op, hop, hserves⟩ := hc.serves.serves k _ ha
    have hredirects : op.isRedirect = true := hserves
    rw [hc.coordinated op (List.mem_of_getElem? hop)] at hredirects
    cases hredirects

section Steps

variable [Backend β]

theorem Accounted.step (hc : c.Accounted ops h) {e : Event}
    (he : ∀ op, e.operation? = some op → op.isRedirect = false) (now : Moment) :
    (c.step now e).Accounted (ops ++ e.operation?.toList) (h ++ (c.notice? e).toList) where
  loginPath := (loginPath_step now e c).trans hc.loginPath
  serves := hc.serves.step hc.loginPath now e
  coordinated op hop := by
    rcases List.mem_append.mp hop with hmem | hnew
    · exact hc.coordinated op hmem
    · exact he op (Option.mem_toList.mp hnew)
  caused caller generation hmem := by
    have hold : ∀ {op}, ops[caller]? = some op →
        (ops ++ e.operation?.toList)[caller]? = some op := fun hop =>
      (List.getElem?_append_left (List.getElem?_eq_some_iff.mp hop).1).trans hop
    rcases List.mem_append.mp hmem with hbefore | hnew
    · obtain ⟨op, request, hop, hrest⟩ := hc.caused caller generation hbefore
      exact ⟨op, request, hold hop, hrest⟩
    · obtain ⟨rfl, heffect, -⟩ := eq_of_notice?_eq_navigated (Option.mem_toList.mp hnew)
      obtain ⟨k, goal, said, hk, hthere⟩ := hc.of_navigates heffect
      obtain rfl := Event.advance.inj hk
      obtain ⟨op, hop, asked, hasked, hmay⟩ := hc.serves.serves caller _ hthere
      exact ⟨op, asked, hold hop, hasked, hmay⟩

theorem Accounted.run (hc : c.Accounted ops h) {s : List (Moment × Event)}
    (hops : ∀ op ∈ operations s, op.isRedirect = false) :
    (c.run s).Accounted (ops ++ operations s) (h ++ c.notices s) := by
  induction s generalizing c ops h with
  | nil =>
    rw [operations, notices, List.filterMap_nil, List.append_nil, List.append_nil]
    exact hc
  | cons x rest ih =>
    obtain ⟨now, e⟩ := x
    rw [operations_cons] at hops ⊢
    have he : ∀ op, e.operation? = some op → op.isRedirect = false := fun op hop =>
      hops op (List.mem_append_left _ (Option.mem_toList.mpr hop))
    rw [notices, ← List.append_assoc, ← List.append_assoc]
    exact ih (hc.step he now) fun op hop => hops op (List.mem_append_right _ hop)

end Steps

/-! ### What the redirector remembers -/

/-- The redirector remembers the latest navigation since the user signed in, which is the one of the
greatest generation. -/
structure Remembers (h : List Notice) (c : Console β) : Prop where
  once : OncePerSession h
  last : ∀ g, c.redirector.onLogin = some g → SentAwayIn g h ∧ g ≤ c.store.generation
  latest : ∀ g, SentAwayIn g h → ∃ g', c.redirector.onLogin = some g' ∧ g ≤ g'

theorem Remembers.congr (hc : c.Remembers h) {c' : Console β}
    (honLogin : c'.redirector.onLogin = c.redirector.onLogin)
    (hgeneration : c.store.generation ≤ c'.store.generation) : c'.Remembers h where
  once := hc.once
  last g hg := by
    obtain ⟨hsent, hle⟩ := hc.last g (honLogin ▸ hg)
    exact ⟨hsent, Nat.le_trans hle hgeneration⟩
  latest := honLogin ▸ hc.latest

/-- The user signs in, and nothing is remembered any more. -/
theorem Remembers.signedIn (hc : c.Remembers h) {c' : Console β}
    (honLogin : c'.redirector.onLogin = none) : c'.Remembers (h ++ [.signedIn]) where
  once := hc.once.append (by simp)
  last g hg := by
    rw [honLogin] at hg
    cases hg
  latest g hsent := by
    rcases sentAwayIn_append_singleton.mp hsent with ⟨caller, hcaller⟩ | ⟨hne, -⟩
    · cases hcaller
    · exact absurd rfl hne

/-- A navigation is made in a generation greater than that of any before since the user signed
in. -/
theorem Remembers.navigated (hc : c.Remembers h)
    (hfirst : c.redirector.onLogin ≠ some c.store.generation) (caller : Nat) {c' : Console β}
    (honLogin : c'.redirector.onLogin = some c.store.generation)
    (hgeneration : c'.store.generation = c.store.generation) :
    c'.Remembers (h ++ [.navigated caller c.store.generation]) where
  once := by
    refine hc.once.append fun k g heq hsent => ?_
    obtain ⟨-, rfl⟩ := Notice.navigated.inj heq
    obtain ⟨g', hg', hle⟩ := hc.latest _ hsent
    have hge := (hc.last g' hg').2
    exact hfirst (hg'.trans (congrArg some (Nat.le_antisymm hge hle)))
  last g hg := by
    rw [honLogin] at hg
    obtain rfl : c.store.generation = g := Option.some_inj.mp hg
    exact ⟨sentAwayIn_append_singleton.mpr (Or.inl ⟨caller, rfl⟩), Nat.le_of_eq hgeneration.symm⟩
  latest g hsent := by
    refine ⟨c.store.generation, honLogin, ?_⟩
    rcases sentAwayIn_append_singleton.mp hsent with ⟨k, hk⟩ | ⟨-, hbefore⟩
    · obtain ⟨-, rfl⟩ := Notice.navigated.inj hk
      exact Nat.le_refl _
    · obtain ⟨g', hg', hle⟩ := hc.latest g hbefore
      exact Nat.le_trans hle (hc.last g' hg').2

/-! ### Callers that send the user away at once -/

end Console

/-- The caller has read the generation in which its session is lost, and is about to tell the
redirector or to send the user away. -/
def Exchange.sendsAway : Exchange → Bool
  | .redirecting _ _ _ | .navigating _ => true
  | _ => false

theorem Exchange.sendsAway_answer {x : Exchange} {result : Except ApiError Response}
    (h : (x.answer result).sendsAway = true) : x.sendsAway = true := by
  cases x with
  | inFlight request scope =>
    cases result with
    | error e => cases h
    | ok response =>
      simp only [Exchange.answer] at h
      split at h <;> cases h
  | _ => exact h

namespace Console

variable {β : Type} {c : Console β} {ops : List Operation} {h : List Notice}

/-- Whoever has read the generation in which its session is lost sends the user away before anything
else happens. -/
def AtOnce (c : Console β) (e : Event) : Prop :=
  ∀ (k : Nat) goal x, c.callers[k]? = some (.exchange goal x) → x.sendsAway = true →
    e = .advance k

/-- The navigation that somebody is about to make. -/
inductive Owes (c : Console β) : List Notice → Prop
  | nothing
      (hnobody : ∀ (k : Nat) goal said,
        c.callers[k]? ≠ some (.exchange goal (.navigating said))) : Owes c []
  | navigation {k : Nat} {goal : Goal} {said : String}
      (hthere : c.callers[k]? = some (.exchange goal (.navigating said))) :
      Owes c [.navigated k c.store.generation]

/-- A run without interruptions between the generation and the navigation has come as far as `c`.
The redirector remembers a navigation from the moment that it is told of it, one step before it is
made. -/
structure Navigates (h : List Notice) (c : Console β) : Prop where
  timely : ∀ (k : Nat) goal request said generation,
    c.callers[k]? = some (.exchange goal (.redirecting request said generation)) →
    generation = c.store.generation
  remembers : ∃ due, c.Owes due ∧ c.Remembers (h ++ due)

/-- As long as the user is not sent away in the next event, nobody is about to do so. -/
theorem Navigates.remembers_of_other (hc : c.Navigates h) {e : Event} (hat : c.AtOnce e)
    (hnot : c.effect e ≠ .navigates) : c.Remembers h := by
  obtain ⟨due, howes, hremembers⟩ := hc.remembers
  cases howes with
  | nothing hnobody => exact (List.append_nil h) ▸ hremembers
  | navigation hthere =>
    obtain rfl := hat _ _ _ hthere rfl
    exact absurd (effect_advance hthere) hnot

variable [Backend β]

/-- Only one who has just read the generation is about to tell the redirector. -/
theorem eq_cleared_of_stepExchange {x : Exchange} {now : Moment} {caller : Nat}
    {request : Request} {said : String} {generation : Nat}
    (h : (c.stepExchange now caller x).1 = .redirecting request said generation) :
    x = .cleared request said ∧ generation = c.store.generation := by
  cases Exchange.stepsTo_of_stepExchange h with
  | looks => exact ⟨rfl, rfl⟩

/-- Only one whom the redirector has just told to do so is about to send the user away. -/
theorem eq_redirecting_of_stepExchange {x : Exchange} {now : Moment} {caller : Nat} {said : String}
    (h : (c.stepExchange now caller x).1 = .navigating said) :
    ∃ request generation, x = .redirecting request said generation ∧
      (c.redirector.mark request generation).1 = true := by
  cases Exchange.stepsTo_of_stepExchange h with
  | marks said hfirst => exact ⟨_, _, rfl, hfirst⟩

/-- Whoever is about to send the user away has just taken a step. -/
theorem eq_advance_of_sendsAway {e : Event} (hat : c.AtOnce e) {now : Moment} {k : Nat}
    {goal : Goal} {x : Exchange} (hx : (c.step now e).callers[k]? = some (.exchange goal x))
    (haway : x.sendsAway = true) :
    e = .advance k ∧ ∃ y, c.callers[k]? = some (.exchange goal y) ∧
      x = (c.stepExchange now k y).1 := by
  cases movedRequest_of_getElem? hx with
  | fresh request => cases haway
  | reported request scope response he hnew => cases haway
  | stayed hthere hne => exact absurd (hat k goal x hthere haway) hne
  | stepped hthere he => exact ⟨he, _, hthere, rfl⟩
  | answered result hthere he =>
    have hnow := hat k goal _ hthere (Exchange.sendsAway_answer haway)
    rw [he] at hnow
    cases hnow

/-- Nobody gets between the two steps, so the generation is still the one that was read. -/
theorem timely_step {e : Event} (hat : c.AtOnce e) (now : Moment) (k : Nat) (goal : Goal)
    (request : Request) (said : String) (generation : Nat)
    (hk : (c.step now e).callers[k]? =
      some (.exchange goal (.redirecting request said generation))) :
    generation = (c.step now e).store.generation := by
  obtain ⟨rfl, y, hthere, heq⟩ := eq_advance_of_sendsAway hat hk rfl
  obtain ⟨rfl, hgeneration⟩ := eq_cleared_of_stepExchange heq.symm
  rw [store_step_of_no_write (by rw [write?, hthere]; rfl)]
  exact hgeneration

/-- Nobody comes to be about to send the user away whom the redirector has not told to do so. -/
theorem owes_nothing_step {e : Event} (hat : c.AtOnce e) (now : Moment)
    (hnot : ∀ request generation, c.effect e = .marks request generation →
      (c.redirector.mark request generation).1 = false) : (c.step now e).Owes [] := by
  refine .nothing fun k goal said hk => ?_
  obtain ⟨rfl, y, hthere, heq⟩ := eq_advance_of_sendsAway hat hk rfl
  obtain ⟨request, generation, rfl, hfirst⟩ := eq_redirecting_of_stepExchange heq.symm
  rw [hnot request generation (effect_advance hthere)] at hfirst
  cases hfirst

/-- The redirector is told that a session is lost. -/
theorem Navigates.remembers_step_of_marks (hc : c.Navigates h) {now : Moment} {k : Nat}
    {goal : Goal} {request : Request} {said : String} {generation : Nat}
    (hthere : c.callers[k]? = some (.exchange goal (.redirecting request said generation)))
    (hat : c.AtOnce (.advance k)) :
    ∃ due, (c.step now (.advance k)).Owes due ∧ (c.step now (.advance k)).Remembers (h ++ due) := by
  have heffect : c.effect (.advance k) = .marks request generation := effect_advance hthere
  have hremembers := hc.remembers_of_other hat (by rw [heffect]; nofun)
  have hredirector := redirector_step now (.advance k) c
  have hstore : (c.step now (.advance k)).store = c.store :=
    store_step_of_no_write (by rw [write?, hthere]; rfl) now
  obtain rfl := hc.timely k _ _ _ _ hthere
  rw [heffect] at hredirector
  cases hfirst : (c.redirector.mark request c.store.generation).1 with
  | true =>
    rw [Effect.turn, Redirector.mark_snd_of_fst hfirst] at hredirector
    have hnow : (c.step now (.advance k)).callers[k]? =
        some (.exchange goal (.navigating said)) := by
      refine (getElem?_callers_advance_self hthere).trans ?_
      rw [stepActivity_redirecting_of_first hfirst]
    refine ⟨_, .navigation hnow, ?_⟩
    rw [hstore]
    exact hremembers.navigated (Redirector.mark_fst_eq_true.mp hfirst).2 k
      (congrArg Redirector.onLogin hredirector) (congrArg Store.generation hstore)
  | false =>
    rw [Effect.turn, Redirector.mark_snd_of_not_fst hfirst] at hredirector
    refine ⟨[], owes_nothing_step hat now fun r g hmarks => ?_, ?_⟩
    · obtain ⟨rfl, rfl⟩ := Effect.marks.inj (heffect.symm.trans hmarks)
      exact hfirst
    · rw [List.append_nil]
      exact hremembers.congr (congrArg Redirector.onLogin hredirector)
        (Nat.le_of_eq (congrArg Store.generation hstore.symm))

/-- The user is sent away. -/
theorem Navigates.remembers_step_of_navigates (hc : c.Navigates h) {now : Moment} {k : Nat}
    {goal : Goal} {said : String}
    (hthere : c.callers[k]? = some (.exchange goal (.navigating said)))
    (hat : c.AtOnce (.advance k)) :
    ∃ due, (c.step now (.advance k)).Owes due ∧
      (c.step now (.advance k)).Remembers (h ++ [.navigated k c.store.generation] ++ due) := by
  have heffect : c.effect (.advance k) = .navigates := effect_advance hthere
  have hredirector := redirector_step now (.advance k) c
  have hle := generation_le_step now (.advance k) c
  rw [heffect] at hredirector
  refine ⟨[], owes_nothing_step hat now fun r g hmarks => ?_, ?_⟩
  · rw [heffect] at hmarks
    cases hmarks
  obtain ⟨due, howes, hremembers⟩ := hc.remembers
  cases howes with
  | nothing hnobody => exact absurd hthere (hnobody k goal said)
  | navigation hother =>
    obtain rfl := Event.advance.inj (hat _ _ _ hother rfl)
    rw [List.append_nil]
    exact hremembers.congr ((congrArg Redirector.onLogin hredirector).trans rfl) hle

/-- **Steps of a run.** -/
theorem Navigates.step (hc : c.Navigates h) (hops : c.Accounted ops h) {e : Event}
    (hat : c.AtOnce e) (now : Moment) :
    (c.step now e).Navigates (h ++ (c.notice? e).toList) where
  timely := timely_step hat now
  remembers := by
    have hredirector := redirector_step now e c
    have hle := generation_le_step now e c
    cases heffect : c.effect e with
    | marks request generation =>
      obtain ⟨k, goal, said, rfl, hthere⟩ := hops.of_marks heffect
      rw [notice?_eq_none (by rw [heffect]; nofun) (by rw [heffect]; nofun), Option.toList_none,
        List.append_nil]
      exact hc.remembers_step_of_marks hthere hat
    | navigates =>
      obtain ⟨k, goal, said, rfl, hthere⟩ := hops.of_navigates heffect
      rw [notice?, heffect]
      exact hc.remembers_step_of_navigates hthere hat
    | arms =>
      obtain ⟨k, a, rfl, -, -⟩ := exists_of_effect_ne_nothing (by rw [heffect]; nofun)
      rw [heffect] at hredirector
      refine ⟨[], owes_nothing_step hat now (by rw [heffect]; nofun), ?_⟩
      rw [notice?, heffect, List.append_nil]
      exact (hc.remembers_of_other hat (by rw [heffect]; nofun)).signedIn
        (congrArg Redirector.onLogin hredirector)
    | _ =>
      rw [heffect] at hredirector
      refine ⟨[], owes_nothing_step hat now (by rw [heffect]; nofun), ?_⟩
      rw [notice?_eq_none (by rw [heffect]; nofun) (by rw [heffect]; nofun), Option.toList_none,
        List.append_nil, List.append_nil]
      exact (hc.remembers_of_other hat (by rw [heffect]; nofun)).congr
        (congrArg Redirector.onLogin hredirector) hle

theorem Navigates.run (hc : c.Navigates h) (hops : c.Accounted ops h)
    {s : List (Moment × Event)} (hs : ∀ op ∈ operations s, op.isRedirect = false)
    (hat : Obeys AtOnce c s) : (c.run s).Navigates (h ++ c.notices s) := by
  induction s generalizing c ops h with
  | nil => exact (List.append_nil h).symm ▸ hc
  | cons x rest ih =>
    obtain ⟨now, e⟩ := x
    rw [operations_cons] at hs
    have he : ∀ op, e.operation? = some op → op.isRedirect = false := fun op hop =>
      hs op (List.mem_append_left _ (Option.mem_toList.mpr hop))
    rw [notices, ← List.append_assoc]
    exact ih (hc.step hops hat.1 now) (hops.step he now)
      (fun op hop => hs op (List.mem_append_right _ hop)) hat.2

/-- The caller tells the redirector and sends the user away. -/
def leaving : List (Moment × Event) := [.advance 0, .advance 0, .advance 0].map (default, ·)

end Console

end AdminConsole
