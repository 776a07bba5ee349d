import Mathlib.Data.List.Induction
import Mathlib.Data.Finset.Insert
import Symulator.Server.Text

/-! # Terminal sessions

A session takes lines. It keeps the account of the user who is logged in and runs a registered command only for
an account that holds the permission of the command. The words of the session itself cannot be taken by a
command.
-/

namespace Symulator.Server

set_option autoImplicit false

inductive Permission
  | spawn | despawn | kick | ban | reset | settings | logs
deriving DecidableEq, Repr

def Permission.toString : Permission → String
  | .spawn => "SPAWN"
  | .despawn => "DESPAWN"
  | .kick => "KICK"
  | .ban => "BAN"
  | .reset => "RESET"
  | .settings => "SETTINGS"
  | .logs => "LOGS"

def allPermissions : Finset Permission := {.spawn, .despawn, .kick, .ban, .reset, .settings, .logs}

/-- A command of the server `σ`: it acts on the server and answers with a text. -/
structure TerminalCommand (σ : Type) where
  name : String
  help : String
  requiredPermission : Permission
  execute : σ → List String → σ × String

/-- The commands in the order of their names, which are distinct. -/
structure CommandRegistry (σ : Type) where
  commands : List (TerminalCommand σ) := []
  sorted : (commands.map TerminalCommand.name).Pairwise (· < ·) := by decide

structure UserAccount where
  login : String
  password : String
  permissions : Finset Permission
deriving DecidableEq

/-- What a store answers to a login and a password, by the state the server is in. -/
abbrev UserStore (σ : Type) := σ → String → String → Option UserAccount

def inMemoryUserStore {σ : Type} (accounts : List UserAccount) : UserStore σ := fun _ login password =>
  accounts.find? fun account => account.login = login ∧ account.password = password

def defaultAdmin : UserAccount where
  login := "admin"
  password := "admin123"
  permissions := allPermissions

structure TerminalSession where
  user : Option UserAccount := none

variable {σ : Type}

def CommandRegistry.find (registry : CommandRegistry σ) (name : String) : Option (TerminalCommand σ) :=
  registry.commands.find? fun cmd => cmd.name = name

/-- What a line leaves: the session, the server, the text to print, and the command that was executed, if any. -/
structure LineResult (σ : Type) where
  session : TerminalSession
  server : σ
  reply : String
  executed : Option (TerminalCommand σ × List String) := none

namespace TerminalSession

variable (registry : CommandRegistry σ) (users : UserStore σ)

def handleLogin (s : TerminalSession) (server : σ) (args : List String) : LineResult σ :=
  match args with
  | [login, password] =>
    match users server login password with
    | none => ⟨s, server, "invalid credentials", none⟩
    | some account => ⟨{ user := some account }, server, "logged in as " ++ account.login, none⟩
  | _ => ⟨s, server, "usage: login <user> <password>", none⟩

def buildHelp (s : TerminalSession) : String :=
  let builtIns := "built-in commands:\n  login <user> <password>\n  logout\n  help"
  match s.user with
  | none => builtIns ++ "\nlog in to see available commands"
  | some user =>
    (registry.commands.filter fun cmd => cmd.requiredPermission ∈ user.permissions).foldl
      (fun text cmd => text ++ "\n  " ++ cmd.help) builtIns

def processLine (s : TerminalSession) (server : σ) (line : String) : LineResult σ :=
  match tokenize line with
  | [] => ⟨s, server, "", none⟩
  | verb :: args =>
    if verb = "login" then s.handleLogin users server args
    else if verb = "logout" then
      match s.user with
      | none => ⟨s, server, "not logged in", none⟩
      | some user => ⟨{ user := none }, server, "logged out: " ++ user.login, none⟩
    else if verb = "help" then ⟨s, server, s.buildHelp registry, none⟩
    else
      match s.user with
      | none => ⟨s, server, "not logged in — use: login <user> <password>", none⟩
      | some user =>
        match registry.find verb with
        | none => ⟨s, server, "unknown command: " ++ verb ++ " (try `help`)", none⟩
        | some cmd =>
          if cmd.requiredPermission ∉ user.permissions then
            ⟨s, server, "permission denied: `" ++ verb ++ "` requires " ++ cmd.requiredPermission.toString, none⟩
          else
            let (server', reply) := cmd.execute server args
            ⟨s, server', reply, some (cmd, args)⟩

/-- The session and the server after a sequence of lines, from a session just opened. -/
def afterLines (server : σ) (lines : List String) : TerminalSession × σ :=
  lines.foldl
    (fun held line =>
      let result := held.1.processLine registry users held.2 line
      (result.session, result.server))
    ({}, server)

/-! ## What a line says -/

def isLogin (line : String) : Bool := (tokenize line).head? = some "login"

def isLogout (line : String) : Bool := (tokenize line).head? = some "logout"

/-- The account that a login line authenticates. -/
def authenticated (server : σ) (line : String) : Option UserAccount :=
  match tokenize line with
  | [verb, login, password] => if verb = "login" then users server login password else none
  | _ => none

/-- The account logged in after a line. -/
def userAfter (user : Option UserAccount) (server : σ) (line : String) : Option UserAccount :=
  if isLogout line then none else (authenticated users server line).or user

theorem handleLogin_eq (s : TerminalSession) (server : σ) {line : String} {args : List String}
    (hLine : tokenize line = "login" :: args) :
    (s.handleLogin users server args).session.user = (authenticated users server line).or s.user ∧
      (s.handleLogin users server args).executed = none := by
  unfold handleLogin authenticated
  rw [hLine]
  split
  · rename_i login password
    cases hAccount : users server login password <;> simp [hAccount]
  · rename_i hArgs
    refine ⟨?_, rfl⟩
    split
    · rename_i verb login password hTokens
      exact absurd (List.cons.inj hTokens).2 (hArgs login password)
    · rfl

theorem authenticated_of_not_isLogin (server : σ) {line : String} (h : isLogin line = false) :
    authenticated users server line = none := by
  unfold authenticated
  split
  · rename_i verb login password hTokens
    refine if_neg fun hLogin => ?_
    rw [isLogin, hTokens, hLogin] at h
    cases h
  · rfl

theorem processLine_user (s : TerminalSession) (server : σ) (line : String) :
    (s.processLine registry users server line).session.user = userAfter users s.user server line := by
  unfold processLine userAfter
  cases hTokens : tokenize line with
  | nil =>
    have hLogin : isLogin line = false := by simp [isLogin, hTokens]
    have hLogout : isLogout line = false := by simp [isLogout, hTokens]
    simp [hLogout, authenticated_of_not_isLogin users server hLogin]
  | cons verb args =>
    by_cases hLogin : verb = "login"
    · subst hLogin
      have hLogout : isLogout line = false := by simp [isLogout, hTokens]
      simp only [if_true, hLogout, Bool.false_eq_true, if_false]
      exact (handleLogin_eq users s server hTokens).1
    · have hNotLogin : isLogin line = false := by simp [isLogin, hTokens, hLogin]
      rw [authenticated_of_not_isLogin users server hNotLogin, Option.none_or]
      simp only [isLogout, hTokens, List.head?_cons, Option.some.injEq, decide_eq_true_eq, if_neg hLogin]
      split
      · cases hUser : s.user with
        | none => exact hUser
        | some user => rfl
      · split
        · rfl
        · cases hUser : s.user with
          | none => exact hUser
          | some user =>
            cases registry.find verb with
            | none => exact hUser
            | some cmd =>
              dsimp only
              split <;> exact hUser

/-- A command is executed only for a user who holds its permission. -/
theorem exists_user_of_executed (s : TerminalSession) (server : σ) {line : String} {cmd : TerminalCommand σ}
    {args : List String} (h : (s.processLine registry users server line).executed = some (cmd, args)) :
    ∃ user, s.user = some user ∧ cmd.requiredPermission ∈ user.permissions ∧
      ∃ verb, tokenize line = verb :: args ∧ registry.find verb = some cmd := by
  unfold processLine at h
  cases hTokens : tokenize line with
  | nil =>
    rw [hTokens] at h
    cases h
  | cons verb args' =>
    simp only [hTokens] at h
    split at h
    · rename_i hLogin
      rw [(handleLogin_eq users s server (hLogin ▸ hTokens)).2] at h
      cases h
    · split at h
      · cases hUser : s.user with
        | none =>
          rw [hUser] at h
          cases h
        | some user =>
          rw [hUser] at h
          cases h
      · split at h
        · cases h
        · cases hUser : s.user with
          | none =>
            rw [hUser] at h
            cases h
          | some user =>
            cases hFind : registry.find verb with
            | none =>
              simp only [hUser, hFind] at h
              cases h
            | some found =>
              simp only [hUser, hFind] at h
              split at h
              · cases h
              · rename_i hPermission
                cases h
                exact ⟨user, rfl, not_not.mp hPermission, verb, rfl, hFind⟩

theorem afterLines_concat (server : σ) (lines : List String) (line : String) :
    afterLines registry users server (lines ++ [line]) =
      let held := afterLines registry users server lines
      let result := held.1.processLine registry users held.2 line
      (result.session, result.server) := by
  rw [afterLines, List.foldl_append]
  rfl

/-- Whoever is logged in logged in at some line, after which no line logged out or logged in. -/
theorem exists_login_of_user (server : σ) {lines : List String} {account : UserAccount}
    (h : (afterLines registry users server lines).1.user = some account) :
    ∃ before login after, lines = before ++ login :: after ∧
      authenticated users (afterLines registry users server before).2 login = some account ∧
      ∀ between line rest, after = between ++ line :: rest → isLogout line = false ∧
        authenticated users (afterLines registry users server (before ++ login :: between)).2 line = none := by
  induction lines using List.reverseRecOn with
  | nil => cases h
  | append_singleton lines last ih =>
    rw [afterLines_concat, processLine_user, userAfter] at h
    split at h
    · cases h
    · rename_i hLogout
      cases hAuthenticated : authenticated users (afterLines registry users server lines).2 last with
      | some other =>
        rw [hAuthenticated, Option.some_or] at h
        cases h
        refine ⟨lines, last, [], rfl, hAuthenticated, fun between line rest hSplit => ?_⟩
        cases between <;> cases hSplit
      | none =>
        rw [hAuthenticated, Option.none_or] at h
        obtain ⟨before, login, after, rfl, hLogin, hQuiet⟩ := ih h
        refine ⟨before, login, after ++ [last], by simp, hLogin, fun between line rest hSplit => ?_⟩
        rcases List.eq_nil_or_concat rest with rfl | ⟨rest, final, rfl⟩
        · obtain ⟨rfl, hLast⟩ := List.append_inj' hSplit rfl
          cases hLast
          exact ⟨Bool.eq_false_iff.mpr hLogout, hAuthenticated⟩
        · rw [List.concat_eq_append, ← List.cons_append, ← List.append_assoc] at hSplit
          exact hQuiet between line rest (List.append_inj' hSplit rfl).1

/-- The authority of the terminal. A command is executed only on the authority of the last login, with no logout
since, of an account that holds the permission of the command; a login that fails leaves the session as it is;
and with nobody logged in nothing is executed. -/
theorem terminal_authority (server : σ) (lines : List String) (line : String) :
    (∀ cmd args,
      ((afterLines registry users server lines).1.processLine registry users
        (afterLines registry users server lines).2 line).executed = some (cmd, args) →
      ∃ before login after account, lines = before ++ login :: after ∧
        authenticated users (afterLines registry users server before).2 login = some account ∧
        cmd.requiredPermission ∈ account.permissions ∧
        ∀ between later rest, after = between ++ later :: rest → isLogout later = false ∧
          authenticated users (afterLines registry users server (before ++ login :: between)).2 later = none) ∧
    (∀ s : TerminalSession, isLogin line = true → authenticated users server line = none →
      (s.processLine registry users server line).session = s) ∧
    ∀ s : TerminalSession, s.user = none → (s.processLine registry users server line).executed = none := by
  refine ⟨fun cmd args hExecuted => ?_, fun s hLogin hFailed => ?_, fun s hNobody => ?_⟩
  · obtain ⟨account, hUser, hPermission, -⟩ := exists_user_of_executed registry users _ _ hExecuted
    obtain ⟨before, login, after, hSplit, hAuthenticated, hQuiet⟩ := exists_login_of_user registry users server hUser
    exact ⟨before, login, after, account, hSplit, hAuthenticated, hPermission, hQuiet⟩
  · have hUser := processLine_user registry users s server line
    have hLogout : isLogout line = false := by
      rw [isLogin, decide_eq_true_eq] at hLogin
      simp [isLogout, hLogin]
    rw [userAfter, hLogout, hFailed, Option.none_or] at hUser
    exact congrArg TerminalSession.mk hUser
  · cases hExecuted : (s.processLine registry users server line).executed with
    | none => rfl
    | some call =>
      obtain ⟨account, hUser, -⟩ := exists_user_of_executed registry users s server hExecuted
      cases hNobody.symm.trans hUser

end TerminalSession

end Symulator.Server
