/-!
The names of the signals that end a process.
-/

namespace CodeAudit.Signal

/-- The signals with a name of their own. -/
def names : List (Nat × String) := [
  (1, "SIGHUP"), (2, "SIGINT"), (3, "SIGQUIT"), (4, "SIGILL"), (5, "SIGTRAP"), (6, "SIGABRT"), (7, "SIGBUS"),
  (8, "SIGFPE"), (9, "SIGKILL"), (10, "SIGUSR1"), (11, "SIGSEGV"), (12, "SIGUSR2"), (13, "SIGPIPE"),
  (14, "SIGALRM"), (15, "SIGTERM"), (16, "SIGSTKFLT"), (17, "SIGCHLD"), (18, "SIGCONT"), (19, "SIGSTOP"),
  (20, "SIGTSTP"), (21, "SIGTTIN"), (22, "SIGTTOU"), (23, "SIGURG"), (24, "SIGXCPU"), (25, "SIGXFSZ"),
  (26, "SIGVTALRM"), (27, "SIGPROF"), (28, "SIGWINCH"), (29, "SIGIO"), (30, "SIGPWR"), (31, "SIGSYS"),
  (34, "SIGRTMIN"), (64, "SIGRTMAX")]

/-- What a signal is called; one without a name goes by its number. -/
def name (n : Nat) : String :=
  match names.find? (·.1 == n) with
  | some (_, s) => s
  | none => s!"signal {n}"

end CodeAudit.Signal
