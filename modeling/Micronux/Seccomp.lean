/-
The system call filter of `micronux-job-exec`: the program that
`install_seccomp_filter` builds, and what it answers to every call.
-/
import Micronux.Bpf
import Mathlib.Algebra.Order.Ring.Nat

namespace Micronux

/-- The names that `ALLOW_SYSCALL` is used with. -/
inductive Syscall
  | read | write | readv | writev | pread64 | pwrite64 | close | llseek
  | fcntl64 | dup | dup3 | pipe2 | openat | statx | readlinkat | getdents64
  | faccessat | faccessat2 | unlinkat | mkdirat | renameat2 | fsync | fdatasync
  | ftruncate64 | getcwd | chdir | umask | brk | mmap2 | munmap | mremap
  | mprotect | madvise | clone | clone3 | execve | waitid | exit | exitGroup
  | kill | tkill | tgkill | setTidAddress | setRobustList | futexTime64
  | schedYield | schedGetaffinity | getpid | getppid | gettid | getuid
  | geteuid | getgid | getegid | getresuid | getresgid | getgroups
  | rtSigaction | rtSigprocmask | rtSigreturn | rtSigsuspend | sigaltstack
  | restartSyscall | clockGettime64 | clockNanosleepTime64 | times | getrusage
  | prlimit64 | ppollTime64 | pselect6Time64 | socket | socketpair | connect
  | bind | listen | accept | accept4 | shutdown | getsockname | getpeername
  | sendto | recvfrom | setsockopt | getsockopt | sendmsg | recvmsg | eventfd2
  | signalfd4 | timerfdCreate | timerfdSettime64 | timerfdGettime64
  | epollCreate1 | epollCtl | epollPwait | epollPwait2 | getrandom | uname
  | sysinfo
deriving DecidableEq

/-- The entries under an `#ifdef` of their number. -/
def Syscall.optional : Syscall → Bool
  | .faccessat2 | .renameat2 | .clone3 | .futexTime64 | .clockGettime64
  | .clockNanosleepTime64 | .ppollTime64 | .pselect6Time64 | .timerfdSettime64
  | .timerfdGettime64 | .epollPwait2 => true
  | _ => false

def allowSyscalls : List Syscall :=
  [.read, .write, .readv, .writev, .pread64, .pwrite64, .close, .llseek,
    .fcntl64, .dup, .dup3, .pipe2, .openat, .statx, .readlinkat, .getdents64,
    .faccessat, .faccessat2, .unlinkat, .mkdirat, .renameat2, .fsync,
    .fdatasync, .ftruncate64, .getcwd, .chdir, .umask, .brk, .mmap2, .munmap,
    .mremap, .mprotect, .madvise, .clone, .clone3, .execve, .waitid, .exit,
    .exitGroup, .kill, .tkill, .tgkill, .setTidAddress, .setRobustList,
    .futexTime64, .schedYield, .schedGetaffinity, .getpid, .getppid, .gettid,
    .getuid, .geteuid, .getgid, .getegid, .getresuid, .getresgid, .getgroups,
    .rtSigaction, .rtSigprocmask, .rtSigreturn, .rtSigsuspend, .sigaltstack,
    .restartSyscall, .clockGettime64, .clockNanosleepTime64, .times,
    .getrusage, .prlimit64, .ppollTime64, .pselect6Time64, .socket,
    .socketpair, .connect, .bind, .listen, .accept, .accept4, .shutdown,
    .getsockname, .getpeername, .sendto, .recvfrom, .setsockopt, .getsockopt,
    .sendmsg, .recvmsg, .eventfd2, .signalfd4, .timerfdCreate,
    .timerfdSettime64, .timerfdGettime64, .epollCreate1, .epollCtl,
    .epollPwait, .epollPwait2, .getrandom, .uname, .sysinfo]

def auditArchRiscv32 : Bpf.Word := 0x400000f3#32

def seccompRetKillProcess : Bpf.Word := 0x80000000#32

def seccompRetAllow : Bpf.Word := 0x7fff0000#32

def seccompRetErrno : Bpf.Word := 0x00050000#32

def seccompRetData : Bpf.Word := 0x0000ffff#32

def eperm : Bpf.Word := 1#32

/-- `SECCOMP_RET_ERRNO | (SECCOMP_RET_DATA & EPERM)` -/
def seccompRetEperm : Bpf.Word := seccompRetErrno ||| (seccompRetData &&& eperm)

/-- `struct seccomp_data`, with the words behind `arch`. -/
structure SeccompData where
  nr : Bpf.Word
  arch : Bpf.Word
  behind : Bpf.Word → Bpf.Word

/-- `offsetof(struct seccomp_data, nr)` -/
def seccompNr : Bpf.Word := 0#32

/-- `offsetof(struct seccomp_data, arch)` -/
def seccompArch : Bpf.Word := 4#32

/-- What an absolute load reads. -/
def SeccompData.word (data : SeccompData) (offset : Bpf.Word) : Bpf.Word :=
  if offset = seccompNr then data.nr
  else if offset = seccompArch then data.arch
  else data.behind offset

/-- `ALLOW_SYSCALL` -/
def allowSyscall (number : Bpf.Word) : Bpf.Program :=
  [.jumpEq number 0 1, .ret seccompRetAllow]

section Filter

variable (number : Syscall → Bpf.Word) (defined : Syscall → Bool)

/-- The entries of a build whose headers give the calls in `defined` a
number. -/
def builtSyscalls : List Syscall :=
  allowSyscalls.filter fun call => !call.optional || defined call

/-- The array `filter` of `install_seccomp_filter`. -/
def seccompFilter : Bpf.Program :=
  .load seccompArch :: .jumpEq auditArchRiscv32 1 0 ::
    .ret seccompRetKillProcess :: .load seccompNr ::
    ((builtSyscalls defined).flatMap fun call => allowSyscall (number call)) ++
      [.ret seccompRetEperm]

/-- `program.len` -/
def seccompProgramLen : Nat :=
  (seccompFilter number defined).length % 2 ^ 16

end Filter

/-- The answer for one call of the number `nr`. -/
def seccompDecision (numbers : List Bpf.Word) (arch nr : Bpf.Word) : Bpf.Word :=
  if arch = auditArchRiscv32 then
    if nr ∈ numbers then seccompRetAllow else seccompRetEperm
  else seccompRetKillProcess

section Pairs

variable {input : Bpf.Word → Bpf.Word}

def allowTail (numbers : List Bpf.Word) : Bpf.Program :=
  numbers.flatMap allowSyscall ++ [.ret seccompRetEperm]

theorem allowTail_cons (first : Bpf.Word) (rest : List Bpf.Word) :
    allowTail (first :: rest) =
      .jumpEq first 0 1 :: .ret seccompRetAllow :: allowTail rest :=
  rfl

theorem length_allowTail (numbers : List Bpf.Word) :
    (allowTail numbers).length = 2 * numbers.length + 1 := by
  induction numbers with
  | nil => rfl
  | cons first rest ih =>
    rw [allowTail_cons, List.length_cons, List.length_cons, List.length_cons,
      ih]
    omega

/-- The pairs compare one number after the other: a hit returns, a miss skips
the return of its pair. -/
theorem run_allowTail (numbers : List Bpf.Word) (nr : Bpf.Word) {fuel : Nat}
    (hfuel : numbers.length < fuel) :
    Bpf.run input (allowTail numbers) fuel ⟨0, nr⟩ =
      some (if nr ∈ numbers then seccompRetAllow else seccompRetEperm) := by
  induction numbers generalizing fuel with
  | nil =>
    obtain ⟨rest, rfl⟩ : ∃ rest, fuel = rest + 1 :=
      ⟨fuel - 1, by rw [List.length_nil] at hfuel; omega⟩
    exact Bpf.run_ret _ _ _
  | cons first others ih =>
    rw [List.length_cons] at hfuel
    obtain ⟨rest, rfl⟩ : ∃ rest, fuel = rest + 2 := ⟨fuel - 2, by omega⟩
    rw [allowTail_cons, Bpf.run_jumpEq]
    by_cases hhit : nr = first
    · have hoffset : Bpf.jumpOffset nr first 0 1 = 0 := if_pos hhit
      rw [hoffset, Bpf.run_ret, if_pos (hhit ▸ List.mem_cons_self)]
    · have hoffset : Bpf.jumpOffset nr first 0 1 = 0 + 1 := if_neg hhit
      rw [hoffset, Bpf.run_cons, ih (by omega)]
      simp only [List.mem_cons, hhit, false_or]

theorem closed_allowTail (numbers : List Bpf.Word) :
    Bpf.Closed (allowTail numbers) := by
  induction numbers with
  | nil => exact .cons trivial Bpf.closed_nil
  | cons first others ih =>
    rw [allowTail_cons]
    refine .cons ⟨?_, ?_⟩ (.cons trivial ih)
    · rw [List.length_cons]
      exact Nat.succ_pos _
    · rw [List.length_cons, length_allowTail]
      exact Nat.succ_lt_succ (Nat.succ_pos _)

end Pairs

section Decisions

variable (number : Syscall → Bpf.Word) (defined : Syscall → Bool)

theorem seccompFilter_eq : seccompFilter number defined =
      .load seccompArch :: .jumpEq auditArchRiscv32 1 0 ::
        .ret seccompRetKillProcess :: .load seccompNr ::
        allowTail ((builtSyscalls defined).map number) := by
  rw [allowTail, List.flatMap_map]
  rfl

theorem length_seccompFilter : (seccompFilter number defined).length =
      2 * (builtSyscalls defined).length + 5 := by
  rw [seccompFilter_eq]
  simp only [List.length_cons, length_allowTail, List.length_map]

theorem length_builtSyscalls : (builtSyscalls defined).length ≤ 98 :=
  List.length_filter_le _ allowSyscalls

theorem run_seccompFilter (data : SeccompData) :
    Bpf.run data.word (seccompFilter number defined)
        (seccompProgramLen number defined) ⟨0, 0⟩ =
      some (seccompDecision ((builtSyscalls defined).map number) data.arch
        data.nr) := by
  have hcount := length_builtSyscalls defined
  have hlen : seccompProgramLen number defined =
      2 * (builtSyscalls defined).length + 1 + 1 + 1 + 1 + 1 := by
    rw [seccompProgramLen, length_seccompFilter]
    omega
  have harch : data.word seccompArch = data.arch := rfl
  have hnr : data.word seccompNr = data.nr := rfl
  rw [hlen, seccompFilter_eq, Bpf.run_load, harch, Bpf.run_jumpEq,
    seccompDecision]
  by_cases hsame : data.arch = auditArchRiscv32
  · have hoffset : Bpf.jumpOffset data.arch auditArchRiscv32 1 0 = 0 + 1 :=
      if_pos hsame
    rw [hoffset, Bpf.run_cons, Bpf.run_load, hnr, if_pos hsame]
    exact run_allowTail _ _ (by rw [List.length_map]; omega)
  · have hoffset : Bpf.jumpOffset data.arch auditArchRiscv32 1 0 = 0 :=
      if_neg hsame
    rw [hoffset, Bpf.run_ret, if_neg hsame]

theorem closed_seccompFilter : Bpf.Closed (seccompFilter number defined) := by
  rw [seccompFilter_eq]
  have hlength := length_allowTail ((builtSyscalls defined).map number)
  refine .cons ?_ (.cons ⟨?_, ?_⟩ (.cons trivial
    (.cons ?_ (closed_allowTail _))))
  · exact Nat.succ_pos _
  · simp only [List.length_cons]
    exact Nat.succ_lt_succ (Nat.succ_pos _)
  · exact Nat.succ_pos _
  · unfold Bpf.Instr.Fits
    omega

/-- Whatever optional calls a build knows, the filter returns within its own
length for every call: it kills another architecture, lets the listed numbers
through and answers `EPERM` to the rest; no instruction leads out of it. -/
theorem seccompFilter_decides (data : SeccompData) : (∃ result,
      Bpf.run data.word (seccompFilter number defined)
        (seccompProgramLen number defined) ⟨0, 0⟩ = some result ∧
      (result = seccompRetKillProcess ↔ data.arch ≠ auditArchRiscv32) ∧
      (result = seccompRetAllow ↔ data.arch = auditArchRiscv32 ∧
        ∃ call ∈ builtSyscalls defined, number call = data.nr) ∧
      (result = seccompRetErrno ||| (seccompRetData &&& eperm) ↔
        data.arch = auditArchRiscv32 ∧
        ∀ call ∈ builtSyscalls defined, number call ≠ data.nr)) ∧
    seccompProgramLen number defined = (seccompFilter number defined).length ∧
    Bpf.Closed (seccompFilter number defined) := by
  refine ⟨⟨_, run_seccompFilter number defined data, ?_⟩, ?_,
    closed_seccompFilter number defined⟩
  · have hkillAllow : seccompRetKillProcess ≠ seccompRetAllow := by decide
    have hkillErrno : seccompRetKillProcess ≠ seccompRetEperm := by decide
    have hallowErrno : seccompRetAllow ≠ seccompRetEperm := by decide
    have hmem : data.nr ∈ (builtSyscalls defined).map number ↔
        ∃ call ∈ builtSyscalls defined, number call = data.nr := List.mem_map
    rw [← seccompRetEperm, seccompDecision]
    by_cases hsame : data.arch = auditArchRiscv32
    · rw [if_pos hsame]
      by_cases hlisted : data.nr ∈ (builtSyscalls defined).map number
      · rw [if_pos hlisted]
        have hsome := hmem.mp hlisted
        obtain ⟨call, hcall, hnumber⟩ := hsome
        exact ⟨iff_of_false hkillAllow.symm (fun h => h hsame),
          iff_of_true rfl ⟨hsame, call, hcall, hnumber⟩,
          iff_of_false hallowErrno (fun h => h.2 call hcall hnumber)⟩
      · rw [if_neg hlisted]
        exact ⟨iff_of_false hkillErrno.symm (fun h => h hsame),
          iff_of_false hallowErrno.symm (fun h => hlisted (hmem.mpr h.2)),
          iff_of_true rfl ⟨hsame, fun call hcall hnumber =>
            hlisted (hmem.mpr ⟨call, hcall, hnumber⟩)⟩⟩
    · rw [if_neg hsame]
      exact ⟨iff_of_true rfl hsame,
        iff_of_false hkillAllow (fun h => hsame h.1),
        iff_of_false hkillErrno (fun h => hsame h.1)⟩
  · have hcount := length_builtSyscalls defined
    rw [seccompProgramLen, length_seccompFilter]
    omega

end Decisions

end Micronux
