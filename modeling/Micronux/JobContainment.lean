/-
What the helper of a job has become when it reaches its `execv`: it stops at
the first call that is refused, and otherwise it is the process of the policy,
whatever it was started as.
-/
import Mathlib.Data.List.TakeWhile
import Micronux.JobLaunch

namespace Micronux.Job

open Concurrent Protocol Attempt

section Decimal

theorem isDigit_le {char : Char} (hdigit : char.isDigit = true) :
    '0'.toNat ≤ char.toNat := by
  simp only [Char.isDigit, Bool.and_eq_true, decide_eq_true_eq] at hdigit
  exact hdigit.1

theorem not_isSpace_of_isDigit {char : Char} (hdigit : char.isDigit = true) :
    isSpace char = false := by
  rw [isSpace]
  simp only [Bool.or_eq_false_iff, decide_eq_false_iff_not]
  refine ⟨⟨⟨⟨⟨?_, ?_⟩, ?_⟩, ?_⟩, ?_⟩, ?_⟩ <;> (rintro rfl; revert hdigit; decide)

theorem foldl_digits {digits : List Char}
    (hdigits : ∀ char ∈ digits, char.isDigit = true) (start : Nat) :
    digits.foldl (fun (value : Int) digit =>
      10 * value + (digit.toNat - '0'.toNat)) start =
        ((Nat.ofDigitChars 10 digits start : Nat) : Int) := by
  induction digits generalizing start with
  | nil => rfl
  | cons digit rest ih =>
    obtain ⟨hdigit, hrest⟩ := List.forall_mem_cons.mp hdigits
    rw [Nat.ofDigitChars_cons, ← ih hrest, List.foldl_cons]
    congr 1
    rw [Nat.cast_add, Nat.cast_mul, Nat.cast_sub (isDigit_le hdigit)]
    rfl

/-- `strtol` reads back what `snprintf` has written. -/
theorem strtol_decimal (value : Nat) :
    strtol (decimal value) = some ((value : Int), []) := by
  have hdigits : ∀ char ∈ decimal value, char.isDigit = true :=
    fun char => Nat.isDigit_of_mem_toDigits (by decide) (by decide)
  have hvalue : Nat.ofDigitChars 10 (decimal value) 0 = value :=
    Nat.ofDigitChars_toDigits (by decide) (by decide)
  have hsum := foldl_digits hdigits 0
  rw [hvalue, Nat.cast_zero] at hsum
  have htake := List.takeWhile_eq_self_iff.mpr hdigits
  have hdrop := List.dropWhile_eq_nil_iff.mpr hdigits
  cases hdecimal : decimal value with
  | nil => exact absurd hdecimal Nat.toDigits_ne_nil
  | cons first rest =>
    rw [hdecimal] at hdigits hsum htake hdrop
    have hfirst := hdigits first List.mem_cons_self
    have hspace : (first :: rest).dropWhile isSpace = first :: rest := by
      rw [List.dropWhile_cons, not_isSpace_of_isDigit hfirst]
      rfl
    have hsign : splitSign (first :: rest) = (false, first :: rest) := by
      unfold splitSign
      split
      iterate 2 · next heq =>
        exact absurd ((List.cons.inj heq).1 ▸ hfirst) (by decide)
      · rfl
    simp only [strtol, hspace, hsign, htake, hdrop]
    rw [hsum]
    rfl

/-- The helper takes a descriptor for the one that the supervisor has
written, or refuses it. -/
theorem eq_of_parseDescriptor {value descriptor : Nat}
    (hparse : parseDescriptor (decimal value) = some descriptor) :
    descriptor = value := by
  rw [parseDescriptor, strtol_decimal] at hparse
  simp only [Option.bind_eq_bind, Option.bind_some] at hparse
  split at hparse
  · cases hparse
  · exact (Option.some.inj hparse).symm

end Decimal

section Helper

variable {headers : Headers} {start : Process OpenFile}
  {stdoutText stderrText : Text}

def jobLimit (resource : Resource) : Nat × Nat :=
  let limit := (jobLimits.lookup resource).getD 0
  (limit, limit)

/-- Behind `apply_resource_limits` -/
def limited (process : Process OpenFile) : Process OpenFile :=
  { process with limits := jobLimit }

/-- Without the first capabilities in the bounding set. -/
def unbounded (count : Nat) (process : Process OpenFile) : Process OpenFile :=
  { process with
    bounding := fun capability =>
      count ≤ capability && process.bounding capability }

/-- Behind `clear_capabilities` -/
def cleared (headers : Headers) (process : Process OpenFile) :
    Process OpenFile :=
  ((((unbounded (headers.capLastCap + 1) process).setGroups []).setGids
    (.all jobGid)).setUids (.all jobUid)).setCapabilities (.zero, .zero)

def confine (headers : Headers) (files : Descriptors OpenFile)
    (process : Process OpenFile) : Process OpenFile :=
  (((cleared headers (limited (process.setUmask 0o77))).setDirectory
    ['/']).setFiles files).setNoNewPrivs.addFilter
      (seccompFilter headers.number headers.defined)

theorem foldl_setLimit (limits : List (Resource × Nat))
    (process : Process OpenFile) :
    (limits.map fun limit process => Process.setLimit process limit).foldl
      (fun before change => change before) process = { process with
          limits := limits.foldl (fun table limit =>
            Function.update table limit.1 (limit.2, limit.2))
              process.limits } := by
  induction limits generalizing process with
  | nil => rfl
  | cons limit rest ih => exact ih (process.setLimit limit)

theorem foldl_jobLimits (limits : Resource → Nat × Nat) :
    jobLimits.foldl (fun (table : Resource → Nat × Nat) limit =>
      Function.update table limit.1 (limit.2, limit.2)) limits = jobLimit := by
  funext resource
  cases resource <;> rfl

theorem foldl_dropBounding (count : Nat) (process : Process OpenFile) :
    ((List.range count).map fun capability process =>
        Process.dropBounding process capability).foldl
      (fun before change => change before) process =
        unbounded count process := by
  induction count with
  | zero => simp [unbounded]
  | succ count ih =>
    rw [List.range_succ, List.map_append, List.foldl_append, ih]
    simp only [List.map_cons, List.map_nil, List.foldl_cons, List.foldl_nil,
      Process.dropBounding, unbounded]
    congr 2
    funext capability
    rw [Function.update_apply]
    split
    · next hsame => simp [hsame]
    · next hother =>
        congr 1
        simp only [decide_eq_decide]
        omega

theorem applyResourceLimits_triple :
    alone.Triple () (· = start) applyResourceLimits fun passed process =>
        if passed then process = limited start else True := by
  have hlimits := foldl_setLimit jobLimits start
  rw [foldl_jobLimits] at hlimits
  rw [limited, ← hlimits]
  exact Triple.alone_allOf_grant _

theorem capset_triple {final : Process OpenFile} : alone.Triple ()
      (fun process => process.setCapabilities (.zero, .zero) = final)
      (call fun process => process.setCapabilities (.zero, .zero))
      fun passed process => if passed then process = final else True :=
  Triple.alone_grant (fun _ => id) fun _ _ => trivial

/-- What the kernel does to the capabilities is overwritten at once. -/
theorem setresuid_triple : alone.Triple () (· = start) setresuid
      fun passed process => if passed then
        process.setCapabilities (.zero, .zero) =
          (start.setUids (.all jobUid)).setCapabilities (.zero, .zero)
        else True := by
  apply Triple.alone_total
  rintro input process rfl
  cases input.ok with
  | false => trivial
  | true => rfl

theorem clearCapabilities_triple : alone.Triple () (· = start)
      (clearCapabilities headers) fun passed process =>
        if passed then process = cleared headers start else True := by
  apply Triple.alone_allOf_grant_append
  rw [foldl_dropBounding]
  apply Triple.allOf_cons (.const True) (Triple.alone_grant_eq _)
  apply Triple.allOf_cons (.const True) (Triple.alone_grant_eq _)
  apply Triple.allOf_cons (.const True) setresuid_triple
  exact Triple.allOf_cons (.const True) capset_triple
    (Triple.allOf_nil (stable_alone _))

theorem query_triple {β : Type} (view : Process OpenFile → β) :
    alone.Triple () (· = start) (query view) fun _ process => process = start :=
  Triple.alone_total fun _ _ hstart => hstart

/-- `verify_identity` only reads. -/
theorem verifyIdentity_triple : alone.Triple () (· = start) verifyIdentity
      fun _ process => process = start := by
  have hstop : alone.Triple () (· = start)
      (.ret false : HelperProg Bool) fun _ process => process = start :=
    Triple.alone_ret fun _ => id
  apply (query_triple _).bind
  rintro (_ | uids)
  · exact hstop
  apply (query_triple _).bind
  rintro (_ | gids)
  · exact hstop
  dsimp only
  split
  · exact hstop
  apply (query_triple _).bind
  rintro (_ | groups)
  · exact hstop
  dsimp only
  split
  · exact hstop
  apply (query_triple _).bind
  rintro (_ | capabilities)
  · exact hstop
  · exact Triple.alone_ret fun _ => id

theorem redirect_triple : alone.Triple () (· = start)
      (redirect stdoutText stderrText) fun passed process =>
        if passed then ∃ refuse files, redirectStandardDescriptors .devNull
            (start.limits .nofile).1 refuse stdoutText stderrText start.files =
              (files, true) ∧ process = start.setFiles files
        else True := by
  apply Triple.alone_total
  rintro input process rfl
  dsimp only
  split
  · next hpassed => exact ⟨input.refuse, _, Prod.ext rfl hpassed, rfl⟩
  · trivial

/-- What a helper that reaches its `execv` has become. -/
def Confined (headers : Headers) (stdoutText stderrText : Text)
    (start process : Process OpenFile) : Prop :=
  ∃ refuse redirected files, descriptorsAtExec .devNull
      (start.limits .nofile).1 refuse stdoutText stderrText start.files =
        some files ∧ process = confine headers files (start.setFiles redirected)

section Attempts

variable {pre mid : Process OpenFile → Prop} {reason : HelperStop}

/-- A check of the helper: behind it the process is as it has to be. -/
theorem check_triple {prog : HelperProg Bool}
    (hprog : alone.Triple () pre prog fun passed process =>
      if passed then mid process else True) :
    alone.Triple () pre (Attempt.check reason prog).run
      (Ends (fun _ => mid) fun _ => True) :=
  triple_check (stable_alone _) (.const True) hprog

theorem store_triple (change : Process OpenFile → Process OpenFile) :
    alone.Triple () (· = start) (Attempt.lift (Prog.store change) :
        Attempt (Process OpenFile) Input HelperStop Unit).run
      (Ends (fun _ process => process = change start) fun _ => True) := by
  apply triple_lift fun _ => stable_alone _
  apply Triple.store (stable_alone _) (stable_alone _)
  exact fun process _ hstart => ⟨trivial, trivial, congrArg change hstart⟩

end Attempts

theorem installSeccompFilter_triple : alone.Triple () (· = start)
      (installSeccompFilter headers) fun passed process => if passed then
        process = start.setNoNewPrivs.addFilter
          (seccompFilter headers.number headers.defined)
        else True :=
  Triple.alone_allOf_grant _

theorem dropPrivileges_triple : alone.Triple () (· = start)
      (dropPrivileges headers).run (Ends (fun _ process =>
        process = confine headers (closeExtraDescriptors start.files) start)
        fun _ => True) := by
  have hverify : ∀ {start : Process OpenFile}, alone.Triple ()
      (· = start) verifyIdentity fun passed process =>
        if passed then process = start else True :=
    verifyIdentity_triple.mono (fun _ _ => id) fun passed _ hstart => by
      cases passed with
      | false => trivial
      | true => exact hstart
  apply triple_bind (.const True) (store_triple _)
  intro _
  apply triple_bind (.const True) (check_triple applyResourceLimits_triple)
  intro _
  apply triple_bind (.const True) (check_triple clearCapabilities_triple)
  intro _
  apply triple_bind (.const True) (check_triple hverify)
  intro _
  apply triple_bind (.const True) (check_triple (Triple.alone_grant_eq _))
  intro _
  apply triple_bind (.const True) (store_triple _)
  intro _
  exact check_triple installSeccompFilter_triple

/-- The helper stops at the first refusal; otherwise it is confined. -/
theorem applyPolicy_triple :
    alone.Triple () (· = start) (applyPolicy headers stdoutText stderrText).run
      (Ends (fun _ =>
        Confined headers stdoutText stderrText start) fun _ => True) := by
  have hread : alone.Triple () (· = start)
      (Prog.load fun process => process.uids.effective == 0 : HelperProg Bool)
      fun passed process => if passed then process = start else True :=
    Triple.load (fun _ => trivial) (stable_alone _)
      (fun _ => stable_alone _) fun _ _ hstart => by
        split
        · exact hstart
        · trivial
  apply triple_bind (.const True) (check_triple hread)
  intro _
  apply triple_bind (.const True) (check_triple redirect_triple)
  intro _ process hinv hredirected
  obtain ⟨refuse, files, hredirect, rfl⟩ := hredirected
  refine (dropPrivileges_triple.mono (fun _ _ => id) ?_) _ hinv rfl
  intro result process hconfined
  cases result with
  | error reason => trivial
  | ok _ =>
    refine ⟨refuse, files, closeExtraDescriptors files, ?_, hconfined⟩
    rw [descriptorsAtExec, hredirect]
    rfl

end Helper

end Micronux.Job
