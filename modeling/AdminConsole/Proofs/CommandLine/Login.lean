import AdminConsole.Proofs.CommandLine.Actions
import AdminConsole.Proofs.Route.Standard
import AdminConsole.Proofs.Settings

/-!
# What a login writes to the settings

The settings come from three layers: their file, the environment and the options of the command
line. A login goes well if and only if the user can sign in (`Machine.SignsIn`), and it then writes
settings back. `Machine.login_persists` says which: those of the file with the email that was used,
but with the address that the environment gives in place of the one in the file. The options leave
no trace. So a login of a user who has set an address in the environment overwrites the address in
the file.

The server is asked before the settings are written, and what it is asked may change the file of the
credentials. That has no bearing on the file of the settings, which has another name.
-/

namespace AdminConsole.CommandLine

open AdminConsole.Time

variable {m n : Machine} {env : Environment} {globals : Globals} {desk : Desk}

/-- The email that is used: one that is given on the command line, else one that the environment
gives, else the one that is typed. -/
def emailFor (given : Option String) (env : Environment) (last : Option String) (line : String) :
    Option String :=
  (given.or (env.nonEmpty? "REDOCK_EMAIL")).or (typedEmail last line)

/-- The settings with the address that the environment gives, if it gives one. -/
def addressed (env : Environment) (s : Settings) : Settings :=
  { s with baseUrl := (env.nonEmpty? "REDOCK_BASE_URL").getD s.baseUrl }

theorem withAddress_eq (env : Environment) (s : Settings) :
    s.withAddress (env.get? "REDOCK_BASE_URL") = addressed env s := by
  unfold Settings.withAddress addressed Environment.nonEmpty?
  cases env.get? "REDOCK_BASE_URL" with
  | none => rfl
  | some address =>
    by_cases hempty : address = ""
    · simp [hempty, Option.filter]
    · simp [hempty, Option.filter]

/-- The instance accepts the email, with the password that the environment gives or else with the
one that is typed: it answers with a session. -/
def Machine.Accepts (m : Machine) (inForce : Settings) (env : Environment) (email : String) :
    Prop :=
  ∃ password response pair, (env.nonEmpty? "REDOCK_PASSWORD").or m.password = some password ∧
    m.answer inForce (Identity.signInRequest email password) = .ok response ∧
    response.status.isSuccess = true ∧ Identity.signedIn (.ok response) = .ok pair

/-- A user who is to sign in on the machine can do so: the settings that lie at `path` are read as
`saved`, there is a place for the credentials, and the instance accepts the email that is used. -/
structure Machine.SignsIn (m : Machine) (env : Environment) (globals : Globals)
    (given : Option String) (path : String) (saved : Settings) (email : String) : Prop where
  settingsPath : settingsPath? env = some path
  load : Settings.load (m.find path) = .ok saved
  directory : ∃ directory, credentialsDirectory env
    (globals.apply (addressed env saved)).credentialBackend = .ok directory
  given : emailFor given env saved.lastEmail m.readLine.1 = some email
  accepts : m.Accepts (globals.apply (addressed env saved)) env email

/-! ### The parts of a login -/

theorem Yields.chooseEmail {given : Option String} {email : String}
    (h : Yields m (chooseEmail Machine.host desk given) email n) :
    emailFor given desk.environment desk.saved.lastEmail m.readLine.1 = some email ∧
      m.Resembles n := by
  unfold CommandLine.chooseEmail at h
  unfold emailFor
  split at h
  · next hgiven =>
    obtain ⟨rfl, rfl⟩ := yields_pure.mp h
    rw [hgiven]
    exact ⟨rfl, .refl m⟩
  · next hgiven =>
    rw [hgiven, Option.none_or]
    exact h.promptEmail

theorem exists_yields_chooseEmail {given : Option String} {email : String}
    (h : emailFor given desk.environment desk.saved.lastEmail m.readLine.1 = some email) :
    ∃ n, Yields m (chooseEmail Machine.host desk given) email n := by
  unfold chooseEmail
  unfold emailFor at h
  split
  · next hgiven =>
    rw [hgiven] at h
    cases h
    exact ⟨m, yields_pure.mpr ⟨rfl, rfl⟩⟩
  · next hgiven =>
    rw [hgiven, Option.none_or] at h
    exact exists_yields_promptEmail h

theorem Yields.choosePassword {password : String}
    (h : Yields m (choosePassword Machine.host desk) password n) :
    (desk.environment.nonEmpty? "REDOCK_PASSWORD").or m.password = some password ∧ n = m := by
  unfold CommandLine.choosePassword at h
  split at h
  · next hgiven =>
    obtain ⟨rfl, rfl⟩ := yields_pure.mp h
    rw [hgiven]
    exact ⟨rfl, rfl⟩
  · next hgiven =>
    obtain ⟨typed, k, hread, h⟩ := yields_bind.mp h
    cases yields_lift.mp hread
    rw [hgiven, Option.none_or]
    split at h
    · next htyped =>
      obtain ⟨rfl, rfl⟩ := yields_pure.mp h
      exact ⟨htyped, rfl⟩
    · exact absurd h not_yields_throw

theorem yields_choosePassword {password : String}
    (h : (desk.environment.nonEmpty? "REDOCK_PASSWORD").or m.password = some password) :
    Yields m (choosePassword Machine.host desk) password m := by
  unfold choosePassword
  split
  · next hgiven =>
    rw [hgiven] at h
    cases h
    exact yields_pure.mpr ⟨rfl, rfl⟩
  · next hgiven =>
    rw [hgiven, Option.none_or] at h
    refine yields_bind.mpr ⟨m.password, m, yields_lift.mpr rfl, ?_⟩
    rw [h]
    exact yields_pure.mpr ⟨rfl, rfl⟩

/-- Who has signed in was accepted, and the settings were left alone. -/
theorem Yields.signIn {now : Moment} {email password : String} {pair : TokenPair}
    (hpublic : desk.console.routes = .standard)
    (h : Yields m (signIn Machine.host now desk email password) pair n) :
    (∃ response, m.answer desk.inForce (Identity.signInRequest email password) = .ok response ∧
      response.status.isSuccess = true ∧ Identity.signedIn (.ok response) = .ok pair) ∧
      ∃ k, desk.MayStore m k ∧ k.Resembles n := by
  have hroutes : desk.console.routes.classify Endpoint.signIn = .unscoped := by
    rw [hpublic]
    exact RouteTable.standard_classify_signIn
  unfold CommandLine.signIn at h
  obtain ⟨outcome, k, hask, h⟩ := yields_bind.mp h
  obtain ⟨houtcome, hstore⟩ := hask.ask
  rw [Console.outcome_perform_login _ hroutes] at houtcome
  subst houtcome
  generalize m.answer desk.inForce (Identity.signInRequest email password) = answer at h ⊢
  cases hsigned : Identity.signedIn (Console.publicOutcome answer) with
  | error e =>
    rw [hsigned] at h
    exact absurd h not_yields_throw
  | ok pair' =>
    rw [hsigned] at h
    obtain ⟨rfl, rfl⟩ := yields_pure.mp h
    cases hpublished : Console.publicOutcome answer with
    | error e =>
      rw [hpublished] at hsigned
      cases hsigned
    | ok response =>
      obtain ⟨hanswer, hsuccess⟩ := Console.publicOutcome_eq_ok_iff.mp hpublished
      rw [hpublished] at hsigned
      exact ⟨⟨response, hanswer, hsuccess, hsigned⟩, hstore⟩

theorem exists_yields_signIn {now : Moment} {email password : String} {response : Response}
    {pair : TokenPair} (hpublic : desk.console.routes = .standard)
    (hanswer : m.answer desk.inForce (Identity.signInRequest email password) = .ok response)
    (hsuccess : response.status.isSuccess = true)
    (hpair : Identity.signedIn (.ok response) = .ok pair) :
    ∃ pair n, Yields m (signIn Machine.host now desk email password) pair n := by
  have hroutes : desk.console.routes.classify Endpoint.signIn = .unscoped := by
    rw [hpublic]
    exact RouteTable.standard_classify_signIn
  obtain ⟨k, hask⟩ := exists_yields_ask m now desk (.login email password)
  rw [Console.outcome_perform_login _ hroutes, hanswer,
    Console.publicOutcome_eq_ok_iff.mpr ⟨rfl, hsuccess⟩, hpair] at hask
  exact exists_yields_bind hask ⟨pair, k, yields_pure.mpr ⟨rfl, rfl⟩⟩

/-- The settings are found in their file afterwards, unless they cannot be written. -/
theorem Yields.remember (ht : m.IsTree) {email : String} {u : Unit}
    (h : Yields m (remember Machine.host desk email) u n) :
    n.find desk.settingsPath =
        .text ({ desk.saved with lastEmail := some email } : Settings).fileText ∨
      (m.find desk.settingsPath = .directory ∨ m.find desk.settingsPath = .blocked) ∧ n = m := by
  unfold CommandLine.remember at h
  obtain ⟨node, k, hfind, h⟩ := yields_bind.mp h
  cases yields_lift.mp hfind
  generalize ({ desk.saved with lastEmail := some email } : Settings) = kept at h ⊢
  unfold Settings.save at h
  cases hnode : m.find desk.settingsPath with
  | directory =>
    rw [hnode] at h
    exact .inr ⟨.inl rfl, (yields_pure.mp h).2.symm⟩
  | blocked =>
    rw [hnode] at h
    exact .inr ⟨.inr rfl, (yields_pure.mp h).2.symm⟩
  | _ =>
    have hwrite : ((m.find desk.settingsPath).write? kept.fileText).isSome := by
      rw [hnode]
      rfl
    rw [hnode] at h
    cases yields_lift.mp h
    exact .inl (Machine.find_replace_self ht hwrite)

theorem exists_yields_remember (m : Machine) (desk : Desk) (email : String) :
    ∃ u n, Yields m (remember Machine.host desk email) u n := by
  refine exists_yields_bind (yields_lift.mpr rfl) ?_
  split
  · exact ⟨(), _, yields_lift.mpr rfl⟩
  · exact ⟨(), m, yields_pure.mpr ⟨rfl, rfl⟩⟩

/-! ### The whole login -/

/-- **Logins.** A login that goes well leaves behind the settings with the email, and those with the
address of the environment. -/
theorem Yields.login {now : Moment} {given : Option String} (hdesk : desk.PreparedFor m env globals)
    (ht : m.IsTree) (h : Yields m (login Machine.host now desk given) () n) :
    ∃ email, emailFor given env desk.saved.lastEmail m.readLine.1 = some email ∧
      m.Accepts desk.inForce env email ∧
      (n.find desk.settingsPath =
          .text ({ desk.saved with lastEmail := some email } : Settings).fileText ∨
        (∀ t, m.find desk.settingsPath ≠ .text t) ∧
          (n.find desk.settingsPath = .directory ∨ n.find desk.settingsPath = .blocked)) := by
  unfold CommandLine.login at h
  obtain ⟨email, k₁, hemail, h⟩ := yields_bind.mp h
  obtain ⟨password, k₂, hpassword, h⟩ := yields_bind.mp h
  obtain ⟨pair, k₃, hsigned, h⟩ := yields_bind.mp h
  obtain ⟨u, k₄, hremember, hsay⟩ := yields_bind.mp h
  obtain ⟨hgiven, hresembles⟩ := hemail.chooseEmail
  obtain ⟨htyped, rfl⟩ := hpassword.choosePassword
  obtain ⟨⟨response, hanswer, hsuccess, hpair⟩, k, hstore, hresembles'⟩ :=
    hsigned.signIn hdesk.routes_eq
  rw [hresembles.answer] at hanswer
  rw [hdesk.environment] at hgiven htyped
  rw [hresembles.password] at htyped
  refine ⟨email, hgiven, ⟨password, response, pair, htyped, hanswer, hsuccess, hpair⟩, ?_⟩
  -- the settings are as they were, if they were there, when they are written
  obtain ⟨htree, hkept⟩ := hdesk.of_mayStore ht hresembles hstore
  rw [hsay.sayLine.find]
  rcases hremember.remember (hresembles'.isTree htree) with hwritten | ⟨hunwritable, rfl⟩
  · exact .inl hwritten
  · refine .inr ⟨fun t htext => ?_, hunwritable⟩
    rw [hresembles'.find, hkept t htext] at hunwritable
    simp at hunwritable

theorem exists_yields_login {now : Moment} {given : Option String} {email : String}
    (hdesk : desk.PreparedFor m env globals)
    (hgiven : emailFor given env desk.saved.lastEmail m.readLine.1 = some email)
    (haccepts : m.Accepts desk.inForce env email) :
    ∃ u n, Yields m (login Machine.host now desk given) u n := by
  obtain ⟨password, response, pair, htyped, hanswer, hsuccess, hpair⟩ := haccepts
  rw [← hdesk.environment] at hgiven htyped
  obtain ⟨k, hemail⟩ := exists_yields_chooseEmail hgiven
  have hresembles := hemail.chooseEmail.2
  rw [← hresembles.password] at htyped
  rw [← hresembles.answer] at hanswer
  refine exists_yields_bind hemail (exists_yields_bind (yields_choosePassword htyped) ?_)
  obtain ⟨pair, signed, hsigned⟩ := exists_yields_signIn hdesk.routes_eq hanswer hsuccess hpair
  refine exists_yields_bind hsigned ?_
  obtain ⟨u, remembered, hremember⟩ := exists_yields_remember signed desk email
  exact exists_yields_bind hremember ⟨(), _, yields_lift.mpr rfl⟩

namespace Machine

/-- The settings that a login has left behind at `path`: what was found there before with the email,
but also with the address of the environment. There are none only if there were none before and none
can be made. -/
def Remembers (before after : Machine) (env : Environment) (path : String) (saved : Settings)
    (email : String) : Prop :=
  Settings.load (after.find path) = .ok { addressed env saved with lastEmail := some email } ∨
    (∀ t, before.find path ≠ .text t) ∧
      (after.find path = .directory ∨ after.find path = .blocked)

section Success

variable {now : Moment} {args : List String} {given : Option String}

theorem exists_signsIn_of_success (ht : m.IsTree)
    (hargs : Invocation.ofArguments args = .run globals (.login given))
    (hsuccess : (m.run now env args).1 = .success) :
    ∃ env' path saved email, m.Starts env globals.logFile env' ∧
      (m.logged globals.logFile).SignsIn env' globals given path saved email ∧
      (m.logged globals.logFile).Remembers (m.run now env args).2 env' path saved email := by
  have hrun : m.run now env args = (.success, (m.run now env args).2) := Prod.ext hsuccess rfl
  obtain ⟨env', desk, hstarts, hprepare, hlogin⟩ := (run_eq_success hargs).mp hrun
  obtain ⟨-, hdesk⟩ := hprepare.prepare
  obtain ⟨email, hgiven, haccepts, hwritten⟩ := Yields.login hdesk (ht.logged _) hlogin
  obtain ⟨saved, hload, hsaved⟩ := hdesk.saved
  obtain ⟨directory, hdirectory, -⟩ := hdesk.console
  rw [withAddress_eq] at hsaved
  rw [hdesk.inForce] at haccepts hdirectory
  rw [hsaved] at hgiven haccepts hdirectory hwritten
  refine ⟨env', desk.settingsPath, saved, email, hstarts,
    ⟨hdesk.settingsPath, hload, ⟨directory, hdirectory⟩, hgiven, haccepts⟩, ?_⟩
  rcases hwritten with htext | hunwritten
  · left
    rw [htext]
    exact Settings.load_fileText _
  · exact .inr hunwritten

theorem success_of_signsIn (hargs : Invocation.ofArguments args = .run globals (.login given))
    {env' : Environment} {path : String} {saved : Settings} {email : String}
    (hstarts : m.Starts env globals.logFile env')
    (hsigns : (m.logged globals.logFile).SignsIn env' globals given path saved email) :
    (m.run now env args).1 = .success := by
  obtain ⟨directory, hdirectory⟩ := hsigns.directory
  rw [← withAddress_eq] at hdirectory
  obtain ⟨desk, hprepare⟩ := exists_yields_prepare hsigns.settingsPath hsigns.load hdirectory
  obtain ⟨-, hdesk⟩ := hprepare.prepare
  -- the desk holds the settings that were found
  obtain ⟨saved', hload, hsaved⟩ := hdesk.saved
  cases hsigns.settingsPath.symm.trans hdesk.settingsPath
  cases hsigns.load.symm.trans hload
  rw [withAddress_eq] at hsaved
  have hgiven := hsigns.given
  have haccepts := hsigns.accepts
  have hlast : desk.saved.lastEmail = saved.lastEmail := by rw [hsaved, addressed]
  rw [← hlast] at hgiven
  rw [← hsaved, ← hdesk.inForce] at haccepts
  obtain ⟨u, n, hlogin⟩ :
      ∃ u n, Yields (m.logged globals.logFile) (login Machine.host now desk given) u n :=
    exists_yields_login hdesk hgiven haccepts
  exact congrArg Prod.fst ((run_eq_success hargs).mpr ⟨env', desk, hstarts, hprepare, hlogin⟩)

/-- **What a login writes.** A login goes well if and only if the user can sign in. The file of the
settings then holds what it held before (the defaults, if there was none) with the email that is
used, but also with the address of the environment, if that gives one. -/
theorem login_persists (ht : m.IsTree)
    (hargs : Invocation.ofArguments args = .run globals (.login given)) :
    ((m.run now env args).1 = .success ↔ ∃ env' path saved email,
        m.Starts env globals.logFile env' ∧
          (m.logged globals.logFile).SignsIn env' globals given path saved email) ∧
      ∀ env' path saved email, m.Starts env globals.logFile env' →
        (m.logged globals.logFile).SignsIn env' globals given path saved email →
          (m.logged globals.logFile).Remembers (m.run now env args).2 env' path saved email := by
  refine ⟨⟨fun hsuccess => ?_, ?_⟩, ?_⟩
  · obtain ⟨env', path, saved, email, hstarts, hsigns, -⟩ :=
      exists_signsIn_of_success ht hargs hsuccess
    exact ⟨env', path, saved, email, hstarts, hsigns⟩
  · rintro ⟨env', path, saved, email, hstarts, hsigns⟩
    exact success_of_signsIn hargs hstarts hsigns
  · intro env' path saved email hstarts hsigns
    obtain ⟨env'', path', saved', email', hstarts', hsigns', hremembers⟩ :=
      exists_signsIn_of_success ht hargs (success_of_signsIn hargs hstarts hsigns)
    -- there is only one way to sign in
    cases hstarts.environment.symm.trans hstarts'.environment
    cases hsigns.settingsPath.symm.trans hsigns'.settingsPath
    cases hsigns.load.symm.trans hsigns'.load
    cases hsigns.given.symm.trans hsigns'.given
    exact hremembers

end Success

/-- A machine with settings that name the address `http://h`, whose instance lets everybody in. -/
def workstation : Machine :=
  let bare : Machine := { directory := "/w", answer := fun _ _ => .ok Renewal.grant }
  (((bare.put ["w"] .directory).put ["c"] .directory).put ["redock-console", "c"] .directory).put
    ["config.json", "redock-console", "c"] (.text "\x7b\"base_url\":\"http://h\"\x7d")

/-- An environment that names another address, `http://e`. -/
def elsewhere : Environment :=
  { entries :=
      [("XDG_CONFIG_HOME", "/c"), ("XDG_CACHE_HOME", "/k"), ("REDOCK_PASSWORD", "p"),
        ("REDOCK_BASE_URL", "http://e")] }

theorem isTree_workstation : workstation.IsTree := by
  have hbare : ({ directory := "/w", answer := workstation.answer } : Machine).IsTree :=
    fun name p _ => rfl
  refine (((hbare.put ?_ (.inl rfl)).put ?_ (.inl rfl)).put ?_ (.inl rfl)).put ?_ (.inr ?_)
  · exact look_nil _
  · exact look_nil _
  · rfl
  · rfl
  · decide

/-- The arguments of a login. -/
def loginArguments : List String := ["login", "--email", "a@b"]

theorem ofArguments_loginArguments :
    Invocation.ofArguments loginArguments = .run {} (.login (some "a@b")) := by decide +kernel

set_option maxRecDepth 4000 in
theorem run_workstation :
    (workstation.run default elsewhere loginArguments).1 = .success ∧
      Settings.load ((workstation.run default elsewhere loginArguments).2.find
        "/c/redock-console/config.json") =
          .ok { baseUrl := "http://e", lastEmail := some "a@b" } := by
  simp only [Machine.run, CommandLine.run, ofArguments_loginArguments, respond, withLog, runCommand,
    prepare, RouteTable.standard_eq]
  decide +kernel

theorem login_persists_elsewhere :
    ∃ path email, settingsPath? elsewhere = some path ∧
      (workstation.run default elsewhere loginArguments).1 = .success ∧
      Settings.load (workstation.find path) = .ok { baseUrl := "http://h" } ∧
      Settings.load ((workstation.run default elsewhere loginArguments).2.find path) =
        .ok { baseUrl := "http://e", lastEmail := some email } := by
  have hsettings : settingsPath? elsewhere = some "/c/redock-console/config.json" := by decide
  have hbefore : workstation.find "/c/redock-console/config.json" =
      .text "\x7b\"base_url\":\"http://h\"\x7d" := by decide
  have hloaded : Settings.load (workstation.find "/c/redock-console/config.json") =
      .ok { baseUrl := "http://h" } := by
    rw [hbefore]
    decide +kernel
  have haddress : elsewhere.nonEmpty? "REDOCK_BASE_URL" = some "http://e" := by decide
  obtain ⟨hiff, hremembers⟩ := @login_persists workstation elsewhere {} default loginArguments
    (some "a@b") isTree_workstation ofArguments_loginArguments
  obtain ⟨env', path, saved, email, hstarts, hsigns⟩ := hiff.mp run_workstation.1
  have hwritten := hremembers _ _ _ _ hstarts hsigns
  cases hstarts.environment
  cases hsettings.symm.trans hsigns.settingsPath
  cases hloaded.symm.trans hsigns.load
  unfold Remembers addressed at hwritten
  rw [haddress] at hwritten
  refine ⟨_, email, hsettings, run_workstation.1, hloaded, ?_⟩
  rcases hwritten with hwritten | ⟨hmissing, -⟩
  · exact hwritten
  · exact absurd hbefore (hmissing _)

/-- The address in the file is lost in a login. -/
theorem login_overwrites_address :
    ∃ path, settingsPath? elsewhere = some path ∧
      (workstation.run default elsewhere loginArguments).1 = .success ∧
      Settings.load (workstation.find path) = .ok { baseUrl := "http://h" } ∧
      ∀ email, Settings.load ((workstation.run default elsewhere loginArguments).2.find path) ≠
        .ok { baseUrl := "http://h", lastEmail := some email } := by
  refine ⟨"/c/redock-console/config.json", by decide, run_workstation.1, by decide +kernel, ?_⟩
  intro email hkept
  have haddress : "http://e" = "http://h" :=
    congrArg Settings.baseUrl (Except.ok.inj (run_workstation.2.symm.trans hkept))
  exact absurd haddress (by decide)

end Machine

end AdminConsole.CommandLine
