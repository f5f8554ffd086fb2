import Rita.Basic

/-!
# `Rita/KernelInterface/Upgrade.lean` — `perform_sysupgrade` and `perform_opkg`

`althea_kernel_interface/src/upgrade.rs`: the router's firmware and package upgrades, as commands
handed to `run_command`. `run_command` is an oracle here: the `n`-th command run gets the `n`-th
answer, whatever it is, and the commands run are logged in order.

`perform_opkg` with a package list runs `opkg <verb> <package> <arguments…>` for the packages in
order and stops after the first one that fails; it returns the answer of the last command run, or
"No packages given to …" when the list is empty (`performOpkg_runs`). It panics exactly when the
command carries no arguments and it has a command to run: an update without a package list, or any
non-empty package list (`performOpkg_error_iff`).
-/

set_option autoImplicit false

namespace Rita
namespace KernelInterface

/-! ## 1. The commands -/

/-- `KernelInterfaceError`: the `RuntimeError` these functions build, and any error `run_command`
    returns, by its `Debug` text. -/
inductive KernelInterfaceError
  | runtimeError (msg : String)
  | other (debug : String)
  deriving DecidableEq

/-- What `run_command` returns. -/
abbrev CommandResult := Except KernelInterfaceError Output

/-- `run_command` as an oracle: the answer to the `n`-th command run. -/
structure CommandRunner where
  answer : Nat → String → List String → CommandResult

/-- The commands run so far, program and arguments, in order. -/
abbrev CommandLog := List (String × List String)

/-- `self.run_command(program, args)`: the next answer, and the command logged. -/
def runCommand (k : CommandRunner) (log : CommandLog) (program : String) (args : List String) :
    CommandResult × CommandLog :=
  (k.answer log.length program args, log ++ [(program, args)])

/-- `althea_types::SysupgradeCommand`. -/
structure SysupgradeCommand where
  url : String
  flags : Option (List String)

/-- `althea_types::OpkgCommandType`. -/
inductive OpkgCommandType
  | update
  | install
  deriving DecidableEq

/-- The verb `perform_opkg` runs `opkg` with. -/
def OpkgCommandType.verb : OpkgCommandType → String
  | .update => "update"
  | .install => "install"

/-- `althea_types::OpkgCommand`. -/
structure OpkgCommand where
  opkgCommand : OpkgCommandType
  packages : Option (List String)
  arguments : Option (List String)

/-- `perform_sysupgrade(command)`: `/sbin/sysupgrade <flags…> <url>`, unless the url is empty. -/
def performSysupgrade (k : CommandRunner) (command : SysupgradeCommand) (log : CommandLog) :
    CommandResult × CommandLog :=
  if command.url.isEmpty then (.error (.runtimeError "Empty url given to sysupgrade"), log)
  else runCommand k log "/sbin/sysupgrade" (command.flags.getD [] ++ [command.url])

/-- The loop of `perform_opkg` over `packages`: `opkg <verb> <packet> <arguments…>` for each,
    returning at the first error; `res` is the result so far. -/
def opkgEach (k : CommandRunner) (verb : String) (arguments : Option (List String)) :
    List String → CommandResult → CommandLog → Except Panic (CommandResult × CommandLog)
  | [], res, log => pure (res, log)
  | packet :: rest, _, log => do
    let args ← unwrap arguments
    let (res, log) := runCommand k log "opkg" (verb :: packet :: args)
    if res.isOk then opkgEach k verb arguments rest res log else pure (res, log)

/-- `perform_opkg(command)`. -/
def performOpkg (k : CommandRunner) (command : OpkgCommand) (log : CommandLog) :
    Except Panic (CommandResult × CommandLog) :=
  match command.opkgCommand with
  | .update =>
    match command.packages with
    | none => do
      let args ← unwrap command.arguments
      pure (runCommand k log "opkg" ("update" :: args))
    | some packages =>
      opkgEach k "update" command.arguments packages
        (.error (.runtimeError "No packages given to update")) log
  | .install =>
    match command.packages with
    | none => pure (.error (.runtimeError "No packages given to install"), log)
    | some packages =>
      opkgEach k "install" command.arguments packages
        (.error (.runtimeError "No packages given to install")) log

/-! ## 2. The opkg loop stops after the first failure -/

/-- How many of a run of answers are taken when it stops after the first error. -/
def ranUntilError {ε α : Type} : List (Except ε α) → Nat
  | [] => 0
  | a :: as => if a.isOk then ranUntilError as + 1 else 1

/-- The answers the loop gets if it runs every package, from the `n`-th command on. -/
def opkgAnswers (k : CommandRunner) (verb : String) (args : List String) :
    Nat → List String → List CommandResult
  | _, [] => []
  | n, p :: ps => k.answer n "opkg" (verb :: p :: args) :: opkgAnswers k verb args (n + 1) ps

/-- The command the loop runs for a package. -/
def opkgCall (verb : String) (args : List String) (p : String) : String × List String :=
  ("opkg", verb :: p :: args)

variable {k : CommandRunner} {verb : String} {args : List String}

/-- **The loop in closed form.** With arguments, it runs the packages in order up to and including
    the first that fails, and returns the last answer, or `res` when there are none. -/
theorem opkgEach_eq (ps : List String) (res : CommandResult) (log : CommandLog) :
    opkgEach k verb (some args) ps res log =
      let as := opkgAnswers k verb args log.length ps
      .ok ((as.take (ranUntilError as)).getLast?.getD res,
        log ++ (ps.take (ranUntilError as)).map (opkgCall verb args)) := by
  induction ps generalizing res log with
  | nil => simp [opkgEach, opkgAnswers, ranUntilError, pure_ok]
  | cons p ps ih =>
    simp only [opkgEach, runCommand, unwrap_some, ok_bind, opkgAnswers, ranUntilError]
    split
    · rw [ih]
      simp [List.getLast?_cons, opkgCall]
    · simp [opkgCall, pure_ok]

theorem opkgEach_nil {arguments : Option (List String)} {res : CommandResult} {log : CommandLog} :
    opkgEach k verb arguments [] res log = .ok (res, log) := rfl

/-- Without arguments, the loop panics on its first package. -/
theorem opkgEach_none {p : String} {ps : List String} {res : CommandResult} {log : CommandLog} :
    opkgEach k verb none (p :: ps) res log =
      .error (.expect "called `Option::unwrap()` on a `None` value") := rfl

/-- **`perform_opkg` with packages runs them in order, up to and including the first that
    fails.** It returns the answer of the last command run, or "No packages given to …" for an
    empty package list. -/
theorem performOpkg_runs {command : OpkgCommand} {ps : List String} (log : CommandLog)
    (hp : command.packages = some ps) (ha : command.arguments = some args) :
    let verb := command.opkgCommand.verb
    let as := opkgAnswers k verb args log.length ps
    performOpkg k command log =
      .ok ((as.take (ranUntilError as)).getLast?.getD
          (.error (.runtimeError ("No packages given to " ++ verb))),
        log ++ (ps.take (ranUntilError as)).map (opkgCall verb args)) := by
  obtain ⟨c, _, _⟩ := command
  cases hp
  cases ha
  cases c <;> exact opkgEach_eq ps _ log

/-- Installing `a`, `b`, `c` where `b` fails: `a` and `b` run, `c` does not, and the answer is
    `b`'s error. -/
theorem performOpkg_install_stops :
    let k : CommandRunner := ⟨fun n _ _ => if n = 1 then .error (.other "b") else .ok ⟨⟨0⟩⟩⟩
    let command : OpkgCommand := ⟨.install, some ["a", "b", "c"], some ["--force"]⟩
    command.packages = some ["a", "b", "c"] ∧ command.arguments = some ["--force"] ∧
      performOpkg k command [] =
        .ok (.error (.other "b"), [("opkg", ["install", "a", "--force"]),
          ("opkg", ["install", "b", "--force"])]) := by
  dsimp only
  exact ⟨rfl, rfl, (@performOpkg_runs _ ["--force"] _ ["a", "b", "c"] [] rfl rfl).trans rfl⟩

/-! ## 3. When `perform_opkg` panics -/

/-- **`perform_opkg` panics exactly when the command has no arguments and a command to run**: an
    update without a package list, or a non-empty package list. The panic is the `unwrap` of the
    arguments. -/
theorem performOpkg_error_iff {command : OpkgCommand} {log : CommandLog} {p : Panic} :
    performOpkg k command log = .error p ↔
      p = .expect "called `Option::unwrap()` on a `None` value" ∧ command.arguments = none ∧
        ((command.opkgCommand = .update ∧ command.packages = none) ∨
          ∃ q qs, command.packages = some (q :: qs)) := by
  obtain ⟨c, _ | _ | ⟨q, qs⟩, _ | args⟩ := command <;> cases c <;>
    simp [performOpkg, opkgEach_nil, opkgEach_none, opkgEach_eq, unwrap, pure_ok] <;> exact eq_comm

end KernelInterface
end Rita
