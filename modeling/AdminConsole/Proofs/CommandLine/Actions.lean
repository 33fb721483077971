import AdminConsole.Proofs.CommandLine.Files
import AdminConsole.Proofs.Console.Alone
import AdminConsole.Proofs.Credentials.WriteThrough

/-!
# What an action does to a machine

An action of the program on a described machine either yields a value and leaves a machine behind
(`Yields`), or it fails. For each part of the program there are two lemmas: one says what follows
from its having yielded something, the other when it yields something. They start from a whole run,
which ends well if the program gets as far as to its command and the command yields something
(`Machine.run_eq_success`).

While the console is at work the only file that may change is that of the credentials
(`Yields.ask`). The console may leave a file there only if one can be there at all
(`Console.backend_perform_of_not_succeeds`), so what is found under other names stays as it is
(`Desk.PreparedFor.of_mayStore`).
-/

namespace AdminConsole

open AdminConsole.Time

/-! ### A file that cannot be written -/

/-- What is no file and cannot become one is left as it is. -/
theorem FileBackend.persist_of_not_succeeds {b : FileBackend} (h : ¬ b.Succeeds)
    (c : StoredCredentials) : Store.persist c b = b := by
  obtain ⟨directory, node⟩ := b
  rw [succeeds_iff] at h
  unfold Store.persist
  cases node with
  | directory => split <;> rfl
  | blocked => split <;> rfl
  | _ => exact absurd ⟨nofun, nofun⟩ h

theorem ChosenBackend.persist_file (b : FileBackend) (c : StoredCredentials) :
    Store.persist c (ChosenBackend.file b) = .file (Store.persist c b) := by
  unfold Store.persist
  split <;> rfl

theorem Store.backend_apply_of_not_succeeds {s : Store ChosenBackend} {b : FileBackend}
    (hs : s.backend = .file b) (h : ¬ b.Succeeds) (now : Moment) (w : StoreWrite) :
    (s.apply now w).2.backend = .file b := by
  cases haccepts : s.accepts w with
  | false =>
    obtain ⟨peer, hpeer⟩ := exists_apply_eq_peer haccepts now
    rw [hpeer]
    exact hs
  | true =>
    obtain ⟨c, hwrite⟩ := exists_apply_eq_write haccepts now
    rw [hwrite]
    change persist _ s.backend = .file b
    rw [hs, ChosenBackend.persist_file, FileBackend.persist_of_not_succeeds h]

/-- An operation of a console leaves a file alone that cannot be written. -/
theorem Console.backend_perform_of_not_succeeds {c : Console ChosenBackend} {b : FileBackend}
    (hc : c.store.backend = .file b) (h : ¬ b.Succeeds) (now : Moment)
    (server : Request → Except ApiError Response) (op : Operation) :
    (c.perform (m := Id) now server op).2.store.backend = .file b := by
  obtain ⟨t, ht⟩ := exists_run_of_perform server op c
  rw [ht]
  refine run_induction' (P := fun c => c.store.backend = ChosenBackend.file b)
    (fun d now e hd => ?_) t hc
  rw [store_step]
  cases d.write? e with
  | none => exact hd
  | some w => exact Store.backend_apply_of_not_succeeds hd h now w

/-- A store that was opened has the backend that the settings name. -/
theorem Settings.backend_openStore (s : Settings) (directory : String) (node : FileNode) :
    (s.openStore directory node).backend = s.backend directory node := by
  unfold openStore backend
  cases s.credentialBackend with
  | file =>
    have hload : Backend.load (ChosenBackend.file ⟨directory, node⟩) =
        (FileBackend.load ⟨directory, node⟩, .file ⟨directory, node⟩) := rfl
    simp only [Store.load, hload]
    cases FileBackend.load ⟨directory, node⟩ with
    | error e => rfl
    | ok kept => cases kept <;> rfl
  | keyring => rfl
  | memory => rfl

namespace CommandLine

variable {α β : Type} {m n : Machine}

theorem run_bind (x : StateM Machine α) (f : α → StateM Machine β) (m : Machine) :
    (x >>= f).run m = (f (x.run m).1).run (x.run m).2 := rfl

/-- Carried out on the machine `m`, the action yields a value and leaves the machine as `n`. -/
def Yields (m : Machine) (x : Action (StateM Machine) α) (a : α) (n : Machine) : Prop :=
  (ExceptT.run x).run m = (.ok a, n)

theorem yields_bind {x : Action (StateM Machine) α} {f : α → Action (StateM Machine) β} {b : β} :
    Yields m (x >>= f) b n ↔ ∃ a k, Yields m x a k ∧ Yields k (f a) b n := by
  unfold Yields
  rw [ExceptT.run_bind, StateT.run_bind]
  rcases (ExceptT.run x).run m with ⟨result, k⟩
  cases result with
  | error e =>
    constructor
    · rintro ⟨⟩
    · rintro ⟨a, k', ⟨⟩, -⟩
  | ok a =>
    constructor
    · exact fun h => ⟨a, k, rfl, h⟩
    · rintro ⟨a', k', ⟨⟩, h⟩
      exact h

/-- What comes after an action that yields something may yield something, too. -/
theorem exists_yields_bind {x : Action (StateM Machine) α} {f : α → Action (StateM Machine) β}
    {a : α} {k : Machine} (hx : Yields m x a k) (hf : ∃ b n, Yields k (f a) b n) :
    ∃ b n, Yields m (x >>= f) b n := by
  obtain ⟨b, n, hf⟩ := hf
  exact ⟨b, n, yields_bind.mpr ⟨a, k, hx, hf⟩⟩

theorem yields_pure {a b : α} : Yields m (pure a) b n ↔ a = b ∧ m = n := by
  constructor
  · rintro ⟨⟩
    exact ⟨rfl, rfl⟩
  · rintro ⟨rfl, rfl⟩
    rfl

theorem not_yields_throw {e : Failure} {a : α} : ¬ Yields m (throw e) a n := by
  rintro ⟨⟩

theorem yields_lift {x : StateM Machine α} {a : α} :
    Yields m (ExceptT.lift x) a n ↔ x.run m = (a, n) := by
  unfold Yields
  rw [ExceptT.run_lift, StateT.run_map]
  rcases x.run m with ⟨b, k⟩
  constructor
  · rintro ⟨⟩
    rfl
  · rintro ⟨⟩
    rfl

theorem yields_mk_pure {result : Except Failure α} {a : α} :
    Yields m (ExceptT.mk (pure result)) a n ↔ result = .ok a ∧ m = n := by
  constructor
  · rintro ⟨⟩
    exact ⟨rfl, rfl⟩
  · rintro ⟨rfl, rfl⟩
    rfl

/-! ### Talking to the user -/

/-- Warnings change nothing but what was told. -/
theorem exists_run_warnings (notices : List String) (a : α) (m : Machine) :
    ∃ n, m.Resembles n ∧
      (do notices.forM Machine.host.warn; return a : StateM Machine α).run m = (a, n) := by
  induction notices generalizing m with
  | nil => exact ⟨m, .refl m, rfl⟩
  | cons notice rest ih =>
    have hnotice : m.Resembles { m with errors := m.errors ++ [notice] } :=
      ⟨rfl, rfl, rfl, rfl⟩
    obtain ⟨n, hn, hrun⟩ := ih { m with errors := m.errors ++ [notice] }
    exact ⟨n, hnotice.trans hn, hrun⟩

theorem Yields.sayLine {line : String} {u : Unit}
    (h : Yields m (sayLine Machine.host line) u n) : m.Resembles n := by
  cases yields_lift.mp h
  exact ⟨rfl, rfl, rfl, rfl⟩

/-- The email that a line stands for: an empty one stands for the last email. -/
def typedEmail (last : Option String) (line : String) : Option String :=
  if Text.trim line = "" then last else some (Text.trim line)

theorem Yields.promptEmail {last : Option String} {email : String}
    (h : Yields m (promptEmail Machine.host last) email n) :
    typedEmail last m.readLine.1 = some email ∧ m.Resembles n := by
  unfold CommandLine.promptEmail at h
  obtain ⟨u, asked, hprompt, h⟩ := yields_bind.mp h
  obtain ⟨line, k, hline, h⟩ := yields_bind.mp h
  have hasked : asked.readLine.1 = m.readLine.1 ∧ m.Resembles asked.readLine.2 := by
    cases yields_lift.mp hprompt
    exact ⟨rfl, rfl, rfl, rfl, rfl⟩
  cases yields_lift.mp hline
  rw [← hasked.1, typedEmail]
  dsimp only at h
  split at h
  · next hentered =>
    obtain ⟨rfl, rfl⟩ := yields_pure.mp h
    exact ⟨if_neg hentered, hasked.2⟩
  · next hentered =>
    rw [if_pos (Classical.not_not.mp hentered)]
    split at h
    · obtain ⟨rfl, rfl⟩ := yields_pure.mp h
      exact ⟨rfl, hasked.2⟩
    · exact absurd h not_yields_throw

/-- The prompt is answered if the line stands for an email. -/
theorem exists_yields_promptEmail {last : Option String} {email : String}
    (h : typedEmail last m.readLine.1 = some email) :
    ∃ n, Yields m (promptEmail Machine.host last) email n := by
  have hanswered : ∃ email n, Yields m (promptEmail Machine.host last) email n := by
    unfold CommandLine.promptEmail
    refine exists_yields_bind (yields_lift.mpr rfl) (exists_yields_bind (yields_lift.mpr rfl) ?_)
    change ∃ email n, Yields _ (if Text.trim m.readLine.1 ≠ "" then _ else _) email n
    unfold typedEmail at h
    split at h
    · next hempty =>
      rw [if_neg (not_not_intro hempty), h]
      exact ⟨email, _, yields_pure.mpr ⟨rfl, rfl⟩⟩
    · next hentered =>
      rw [if_pos hentered]
      exact ⟨_, _, yields_pure.mpr ⟨rfl, rfl⟩⟩
  obtain ⟨email', n, hyields⟩ := hanswered
  cases h.symm.trans hyields.promptEmail.1
  exact ⟨n, hyields⟩

/-! ### Asking the console -/

/-- The machine `k` is `m`, except that the file of the credentials may have been changed where that
is possible. -/
def Desk.MayStore (desk : Desk) (m k : Machine) : Prop :=
  k = m ∨ ∃ before node, desk.console.store.backend = .file before ∧ before.Succeeds ∧
    k = m.replace desk.credentialsPath node

/-- **Asking.** The servers' answers decide what comes of an operation, and nothing is written but
the file of the credentials. -/
theorem Yields.ask {now : Moment} {desk : Desk} {op : Operation} {outcome : Option Outcome}
    (h : Yields m (ask Machine.host now desk op) outcome n) :
    outcome = (desk.console.perform (m := Id) now (m.answer desk.inForce) op).1 ∧
      ∃ k, desk.MayStore m k ∧ k.Resembles n := by
  obtain ⟨told, console, hdone⟩ : ∃ told console,
      desk.console.perform (m := Id) now (m.answer desk.inForce) op = (told, console) :=
    ⟨_, _, rfl⟩
  have hsend : ∀ request, (Machine.host.send desk.inForce request).run m =
      (m.answer desk.inForce request, m) := fun _ => rfl
  have hperform : (desk.console.perform now (Machine.host.send desk.inForce) op).run m =
      ((told, console), m) := by
    rw [Console.run_perform hsend op desk.console, hdone]
  -- all that comes after the credentials are warnings
  have hrest (k : Machine) (hk : desk.MayStore m k) (hrun : (do
        (List.replicate (console.redirector.navigatorCalls -
          desk.console.redirector.navigatorCalls) sessionNotice).forM Machine.host.warn
        return told : StateM Machine (Option Outcome)).run k = (outcome, n)) :
      outcome = told ∧ ∃ k, desk.MayStore m k ∧ k.Resembles n := by
    obtain ⟨n', hn', hwarned⟩ := exists_run_warnings _ told k
    cases hwarned.symm.trans hrun
    exact ⟨rfl, k, hk, hn'⟩
  rw [hdone]
  unfold CommandLine.ask at h
  have hrun := yields_lift.mp h
  rw [run_bind, hperform] at hrun
  dsimp only at hrun
  split at hrun
  · rename_i before after hbefore hafter
    split at hrun
    · next hchanged =>
      have hsucceeds : before.Succeeds := by
        refine Classical.byContradiction fun hnot => hchanged ?_
        have hkept := Console.backend_perform_of_not_succeeds hbefore hnot now
          (m.answer desk.inForce) op
        rw [hdone] at hkept
        cases hafter.symm.trans hkept
        rfl
      exact hrest _ (.inr ⟨before, after.node, hbefore, hsucceeds, rfl⟩) hrun
    · exact hrest m (.inl rfl) hrun
  · exact hrest m (.inl rfl) hrun

/-- Asking always yields something. -/
theorem exists_yields_ask (m : Machine) (now : Moment) (desk : Desk) (op : Operation) :
    ∃ n, Yields m (ask Machine.host now desk op)
      (desk.console.perform (m := Id) now (m.answer desk.inForce) op).1 n := by
  have hasked : ∃ outcome n, Yields m (ask Machine.host now desk op) outcome n :=
    ⟨_, _, yields_lift.mpr rfl⟩
  obtain ⟨outcome, n, hyields⟩ := hasked
  rw [← hyields.ask.1]
  exact ⟨n, hyields⟩

/-! ### Preparing -/

/-- The file of the settings, if the environment says where settings are kept. -/
def settingsPath? (env : Environment) : Option String :=
  env.configDirectory?.map fun configs =>
    PathName.join (PathName.join configs Settings.directoryName) Settings.fileName

/-- What a command works with on the machine `m`: the file of the settings as it was read, with
what the environment says, and the options on top of that for the settings in force. -/
structure Desk.PreparedFor (m : Machine) (env : Environment) (globals : Globals) (desk : Desk) :
    Prop where
  settingsPath : settingsPath? env = some desk.settingsPath
  saved : ∃ saved, Settings.load (m.find desk.settingsPath) = .ok saved ∧
    desk.saved = saved.withAddress (env.get? "REDOCK_BASE_URL")
  inForce : desk.inForce = globals.apply desk.saved
  environment : desk.environment = env
  console : ∃ directory, credentialsDirectory env desk.inForce.credentialBackend = .ok directory ∧
    desk.credentialsPath = directory ++ "/" ++ FileBackend.fileName ∧
    desk.console = { store := desk.inForce.openStore directory (m.find desk.credentialsPath) }

theorem Yields.prepare {env : Environment} {globals : Globals} {desk : Desk}
    (h : Yields m (prepare Machine.host env globals) desk n) :
    n = m ∧ desk.PreparedFor m env globals := by
  unfold CommandLine.prepare at h
  split at h
  · rename_i configs hconfigs
    obtain ⟨node, k, hfind, h⟩ := yields_bind.mp h
    cases yields_lift.mp hfind
    split at h
    · rename_i saved hsaved
      dsimp only at h
      obtain ⟨directory, k, hchosen, h⟩ := yields_bind.mp h
      obtain ⟨hdirectory, rfl⟩ := yields_mk_pure.mp hchosen
      obtain ⟨node, k, hfind, h⟩ := yields_bind.mp h
      cases yields_lift.mp hfind
      obtain ⟨rfl, rfl⟩ := yields_pure.mp h
      refine ⟨rfl, ?_, ⟨saved, hsaved, rfl⟩, rfl, rfl, ⟨directory, hdirectory, rfl, rfl⟩⟩
      rw [settingsPath?, hconfigs]
      rfl
    · exact absurd h not_yields_throw
  · exact absurd h not_yields_throw

/-- A desk is prepared if the settings can be read and there is a place for the credentials. -/
theorem exists_yields_prepare {env : Environment} {globals : Globals} {path directory : String}
    {saved : Settings} (hpath : settingsPath? env = some path)
    (hload : Settings.load (m.find path) = .ok saved)
    (hdirectory : credentialsDirectory env
      (globals.apply (saved.withAddress (env.get? "REDOCK_BASE_URL"))).credentialBackend =
        .ok directory) :
    ∃ desk, Yields m (prepare Machine.host env globals) desk m := by
  obtain ⟨configs, hconfigs, rfl⟩ := Option.map_eq_some_iff.mp hpath
  have hprepare : ∃ desk n, Yields m (prepare Machine.host env globals) desk n := by
    unfold CommandLine.prepare
    rw [hconfigs]
    refine exists_yields_bind (yields_lift.mpr rfl) ?_
    rw [hload]
    refine exists_yields_bind (yields_mk_pure.mpr ⟨hdirectory, rfl⟩) ?_
    exact exists_yields_bind (yields_lift.mpr rfl) ⟨_, _, yields_pure.mpr ⟨rfl, rfl⟩⟩
  obtain ⟨desk, n, hprepare⟩ := hprepare
  obtain ⟨rfl, -⟩ := hprepare.prepare
  exact ⟨desk, hprepare⟩

/-! ### The files of a desk -/

namespace Desk.PreparedFor

variable {k : Machine} {env : Environment} {globals : Globals} {desk : Desk}

/-- What the console took for the file of the credentials is what was found. -/
theorem node_eq (h : desk.PreparedFor m env globals) {b : FileBackend}
    (hb : desk.console.store.backend = .file b) : b.node = m.find desk.credentialsPath := by
  obtain ⟨directory, -, -, hconsole⟩ := h.console
  rw [hconsole, Settings.backend_openStore] at hb
  unfold Settings.backend at hb
  split at hb
  · cases hb
    rfl
  · cases hb
  · cases hb

theorem routes_eq (h : desk.PreparedFor m env globals) : desk.console.routes = .standard := by
  obtain ⟨directory, -, -, hconsole⟩ := h.console
  rw [hconsole]

/-- The two files of a desk have different names. -/
theorem last_ne (h : desk.PreparedFor m env globals) (n : Machine) :
    ∀ a b, n.ends desk.credentialsPath = some a → n.ends desk.settingsPath = some b →
      a.1 ≠ b.1 := by
  obtain ⟨directory, -, hcredentials, -⟩ := h.console
  obtain ⟨configs, -, hsettings⟩ := Option.map_eq_some_iff.mp h.settingsPath
  have hpart : PathName.IsPart FileBackend.fileName := fun done => rfl
  have hpart' : PathName.IsPart Settings.fileName := fun done => rfl
  obtain ⟨above, habove⟩ := PathName.exists_parts_slash hpart directory
  obtain ⟨above', habove'⟩ :=
    PathName.exists_parts_join hpart' (PathName.join configs Settings.directoryName)
  rw [← hcredentials] at habove
  rw [hsettings] at habove'
  intro a b ha hb
  obtain ⟨_, hends⟩ := Machine.exists_ends_eq habove n
  obtain ⟨_, hends'⟩ := Machine.exists_ends_eq habove' n
  cases ha.symm.trans hends
  cases hb.symm.trans hends'
  exact (by decide : FileBackend.fileName ≠ Settings.fileName)

/-- Where the credentials are stored, the settings are left alone. -/
theorem of_mayStore (h : desk.PreparedFor m env globals) (ht : m.IsTree) (hn : m.Resembles n)
    (hstore : desk.MayStore n k) :
    k.IsTree ∧ ∀ t, m.find desk.settingsPath = .text t → k.find desk.settingsPath = .text t := by
  have htree : n.IsTree := hn.isTree ht
  have hfound (t : String) (htext : m.find desk.settingsPath = .text t) :
      n.find desk.settingsPath = .text t := (hn.find _).trans htext
  rcases hstore with rfl | ⟨before, node, hbefore, hsucceeds, rfl⟩
  · exact ⟨htree, hfound⟩
  · have hwrite : ((n.find desk.credentialsPath).write? "").isSome := by
      obtain ⟨hdirectory, hblocked⟩ := FileBackend.succeeds_iff.mp hsucceeds
      rw [h.node_eq hbefore, ← hn.find] at hdirectory hblocked
      cases hnode : n.find desk.credentialsPath with
      | directory => exact absurd hnode hdirectory
      | blocked => exact absurd hnode hblocked
      | _ => rfl
    refine ⟨htree.replace hwrite node, fun t htext => ?_⟩
    exact Machine.find_replace_of_ne htree hwrite (h.last_ne n) (hfound t htext)

end Desk.PreparedFor

/-! ### Runs that succeed -/

namespace Machine

/-- The variables that a program finds on the machine: those of the environment and those that the
environment file supplies. -/
def environment? (m : Machine) (env : Environment) : Option Environment :=
  match m.environmentFile with
  | some text => env.withFile? text
  | none => some env

/-- The machine after the log file was opened, if one is asked for. -/
def logged (m : Machine) (logFile : Option String) : Machine :=
  match logFile with
  | some path => (m.openLog path).2
  | none => m

theorem IsTree.logged (h : m.IsTree) (logFile : Option String) : (m.logged logFile).IsTree := by
  cases logFile with
  | none => exact h
  | some path => exact h.openLog path

/-- The program gets as far as to its command, with the variables `env'`: no variable is in its way,
and the log file can be opened, if one is asked for. -/
structure Starts (m : Machine) (env : Environment) (logFile : Option String) (env' : Environment) :
    Prop where
  threads : ∀ v, env.get? threadsVariable = some v → isThreadCount v = true
  environment : m.environment? env = some env'
  log : ∀ path, logFile = some path → PathName.isNamed path = true ∧ (m.openLog path).1 = true

section Success

variable {now : Moment} {env : Environment} {globals : Globals} {command : Command}

theorem finish_eq_success {result : Except Failure Unit} :
    (finish host result).run m = (.success, n) ↔ result = .ok () ∧ m = n := by
  cases result with
  | error e =>
    constructor
    · rintro ⟨⟩
    · rintro ⟨⟨⟩, -⟩
  | ok u =>
    constructor
    · rintro ⟨⟩
      exact ⟨rfl, rfl⟩
    · rintro ⟨-, rfl⟩
      rfl

theorem runCommand_eq_success :
    (runCommand host now env globals command).run m = (.success, n) ↔
      ∃ desk, Yields m (prepare host env globals) desk m ∧
        Yields m (carryOut host now desk command) () n := by
  let action : Action (StateM Machine) Unit := do
    carryOut host now (← prepare host env globals) command
  have haction : (runCommand host now env globals command).run m = (.success, n) ↔
      Yields m action () n := by
    change (ExceptT.run action >>= finish host).run m = _ ↔ _
    rw [run_bind, finish_eq_success, Yields]
    constructor
    · rintro ⟨hresult, hmachine⟩
      exact Prod.ext hresult hmachine
    · intro h
      rw [h]
      exact ⟨rfl, rfl⟩
  rw [haction, yields_bind]
  constructor
  · rintro ⟨desk, k, hprepare, hcarry⟩
    obtain ⟨rfl, -⟩ := Yields.prepare hprepare
    exact ⟨desk, hprepare, hcarry⟩
  · rintro ⟨desk, hprepare, hcarry⟩
    exact ⟨desk, m, hprepare, hcarry⟩

theorem withLog_eq_success {logFile : Option String} {go : StateM Machine ExitCode} :
    (withLog host logFile go).run m = (.success, n) ↔
      (∀ path, logFile = some path → PathName.isNamed path = true ∧ (m.openLog path).1 = true) ∧
        go.run (m.logged logFile) = (.success, n) := by
  cases logFile with
  | none =>
    constructor
    · intro h
      refine ⟨?_, h⟩
      rintro path ⟨⟩
    · exact And.right
  | some path =>
    unfold withLog
    dsimp only
    by_cases hnamed : PathName.isNamed path = true
    · rw [if_neg (not_not_intro hnamed), run_bind]
      have hopened : (host.openLog path).run m = m.openLog path := rfl
      rw [hopened]
      by_cases hopen : (m.openLog path).1 = true
      · rw [if_pos hopen]
        constructor
        · intro h
          refine ⟨?_, h⟩
          rintro path' ⟨⟩
          exact ⟨hnamed, hopen⟩
        · exact And.right
      · rw [if_neg hopen]
        constructor
        · rintro ⟨⟩
        · rintro ⟨hlog, -⟩
          exact absurd (hlog path rfl).2 hopen
    · rw [if_pos hnamed, finish_eq_success]
      constructor
      · rintro ⟨⟨⟩, -⟩
      · rintro ⟨hlog, -⟩
        exact absurd (hlog path rfl).1 hnamed

/-- **Success.** The program ends well if and only if it gets as far as to its command, a desk can
be prepared and the command yields something. -/
theorem run_eq_success {args : List String}
    (hargs : Invocation.ofArguments args = .run globals command) :
    m.run now env args = (.success, n) ↔ ∃ env' desk, m.Starts env globals.logFile env' ∧
      Yields (m.logged globals.logFile) (prepare host env' globals) desk
        (m.logged globals.logFile) ∧
      Yields (m.logged globals.logFile) (carryOut host now desk command) () n := by
  have hthreads : ((env.get? threadsVariable).any fun v => !isThreadCount v) = false ↔
      ∀ v, env.get? threadsVariable = some v → isThreadCount v = true := by
    cases env.get? threadsVariable with
    | none => simp
    | some v => simp
  unfold Machine.run CommandLine.run
  rw [hargs]
  split
  · next hrefused =>
    constructor
    · rintro ⟨⟩
    · rintro ⟨env', desk, hstarts, -⟩
      rw [hthreads.mpr hstarts.threads] at hrefused
      cases hrefused
  · next haccepted =>
    rw [run_bind]
    dsimp only
    split
    · next env' henv =>
      have henv' : m.environment? env = some env' := henv
      have hrespond : (respond host now env' (.run globals command)).run m = (.success, n) ↔ _ :=
        withLog_eq_success.trans (and_congr_right fun _ => runCommand_eq_success)
      refine hrespond.trans ?_
      constructor
      · rintro ⟨hlog, desk, hprepare, hcarry⟩
        exact ⟨env', desk, ⟨hthreads.mp (eq_false_of_ne_true haccepted), henv', hlog⟩, hprepare,
          hcarry⟩
      · rintro ⟨env'', desk, hstarts, hprepare, hcarry⟩
        cases henv'.symm.trans hstarts.environment
        exact ⟨hstarts.log, desk, hprepare, hcarry⟩
    · next henv =>
      have henv' : m.environment? env = none := henv
      constructor
      · rintro ⟨⟩
      · rintro ⟨env', desk, hstarts, -⟩
        cases henv'.symm.trans hstarts.environment

end Success

end Machine

end CommandLine

end AdminConsole
