/-
The descriptors of `micronux-job-exec`: the redirection of the three standard
descriptors and the closing of all others, over whatever table the program is
started with.
-/
import Mathlib.Algebra.Order.Ring.Int
import Mathlib.Data.List.Basic
import Mathlib.Logic.Function.Basic
import Mathlib.Tactic.Common

namespace Micronux

/-- The open descriptors of a process and what they refer to. -/
abbrev Descriptors (File : Type) := Nat → Option File

namespace Descriptors

variable {File : Type}

def lowestFree (limit : Nat) (table : Descriptors File) : Option Nat :=
  (List.range limit).find? fun descriptor => (table descriptor).isNone

/-- `open`: the descriptor it takes and the table with it. -/
def openFile (limit : Nat) (file : File) (table : Descriptors File) :
    Option (Nat × Descriptors File) := do
  let descriptor ← table.lowestFree limit
  some (descriptor, Function.update table descriptor (some file))

/-- `dup2`, which fails on a closed descriptor. -/
def dup2 (old new : Nat) (table : Descriptors File) :
    Option (Descriptors File) := do
  let file ← table old
  some (Function.update table new (some file))

def close (descriptor : Nat) (table : Descriptors File) : Descriptors File :=
  Function.update table descriptor none

theorem lowestFree_spec {limit descriptor : Nat} {table : Descriptors File}
    (hfree : table.lowestFree limit = some descriptor) :
    table descriptor = none ∧
      ∀ lower < descriptor, (table lower).isSome = true := by
  unfold lowestFree at hfree
  rw [List.find?_range_eq_some] at hfree
  obtain ⟨hnone, -, hlower⟩ := hfree
  refine ⟨Option.isNone_iff_eq_none.mp hnone, fun lower hlt => ?_⟩
  have hsome := hlower lower hlt
  rwa [Option.not_isNone] at hsome

theorem dup2_of_some {old new : Nat} {table : Descriptors File} {file : File}
    (hold : table old = some file) :
    table.dup2 old new = some (Function.update table new (some file)) := by
  rw [dup2, hold]
  rfl

end Descriptors

/-- `isspace` of the C locale -/
def isSpace (char : Char) : Bool :=
  char = ' ' || char = '\t' || char = '\n' || char = '\x0b' || char = '\x0c' ||
    char = '\r'

def splitSign : List Char → Bool × List Char
  | '-' :: rest => (true, rest)
  | '+' :: rest | rest => (false, rest)

/-- `strtol(text, &end, 10)`: the value before it is clamped to a `long`, and
the text at `end`; nothing where no digit is found and `end` is `text`. -/
def strtol (text : List Char) : Option (Int × List Char) :=
  let (negative, body) := splitSign (text.dropWhile isSpace)
  let digits := body.takeWhile Char.isDigit
  let magnitude : Int := digits.foldl
    (fun value digit => 10 * value + (digit.toNat - '0'.toNat)) 0
  if digits.isEmpty then none
  else some (if negative then -magnitude else magnitude,
    body.dropWhile Char.isDigit)

/-- `parse_descriptor`; a value outside of a `long` leaves `ERANGE`. -/
def parseDescriptor (text : List Char) : Option Nat := do
  let (value, rest) ← strtol text
  if value < -2 ^ 31 ∨ 2 ^ 31 ≤ value ∨ rest ≠ [] ∨ value < 3 ∨ 1024 ≤ value then
    none
  else some value.toNat

theorem parseDescriptor_range {text : List Char} {descriptor : Nat}
    (hparse : parseDescriptor text = some descriptor) :
    3 ≤ descriptor ∧ descriptor < 1024 := by
  simp only [parseDescriptor, Option.bind_eq_bind,
    Option.bind_eq_some_iff] at hparse
  obtain ⟨⟨value, rest⟩, -, hvalue⟩ := hparse
  simp only at hvalue
  split at hvalue
  · cases hvalue
  · next hrange =>
      have := Option.some.inj hvalue
      omega

/-- The calls of `redirect_standard_descriptors` that the kernel may refuse. -/
inductive RedirectCall
  | openNull | dupStdin | dupStdout | dupStderr
deriving DecidableEq

section Redirect

variable {File : Type} (devNull : File) (limit : Nat)
  (refuse : RedirectCall → Bool)

/-- A chain of `dup2` calls up to the first that fails. -/
def dupChain : List (RedirectCall × Nat × Nat) → Descriptors File →
    Descriptors File × Bool
  | [], table => (table, true)
  | (call, old, new) :: rest, table =>
    if refuse call then (table, false)
    else match table.dup2 old new with
      | none => (table, false)
      | some next => dupChain rest next

/-- `redirect_standard_descriptors`: the table it leaves and whether it
succeeded. -/
def redirectStandardDescriptors (stdoutText stderrText : List Char)
    (table : Descriptors File) : Descriptors File × Bool :=
  match parseDescriptor stdoutText, parseDescriptor stderrText with
  | some stdoutDescriptor, some stderrDescriptor =>
    if stdoutDescriptor = stderrDescriptor then (table, false)
    else if refuse .openNull then (table, false)
    else match table.openFile limit devNull with
      | none => (table, false)
      | some (nullDescriptor, opened) =>
        let (redirected, ok) := dupChain refuse
          [(.dupStdin, nullDescriptor, 0), (.dupStdout, stdoutDescriptor, 1),
            (.dupStderr, stderrDescriptor, 2)] opened
        (redirected.close nullDescriptor, ok)
  | _, _ => (table, false)

/-- `close_extra_descriptors` -/
def closeExtraDescriptors (table : Descriptors File) : Descriptors File :=
  (List.range' 3 (1024 - 3)).foldl
    (fun open_ descriptor => open_.close descriptor) table

/-- The table at the `execv` of `main`: what `main` does between the two
functions touches no descriptor. -/
def descriptorsAtExec (stdoutText stderrText : List Char)
    (table : Descriptors File) : Option (Descriptors File) :=
  let (redirected, ok) := redirectStandardDescriptors devNull limit refuse
    stdoutText stderrText table
  if ok then some (closeExtraDescriptors redirected) else none

end Redirect

section Tables

variable {File : Type} {devNull stdoutPipe stderrPipe : File} {limit : Nat}
  {refuse : RedirectCall → Bool} {table final : Descriptors File}
  {stdoutText stderrText : List Char} {stdoutDescriptor stderrDescriptor : Nat}

theorem close_foldl_apply (descriptors : List Nat) (descriptor : Nat) :
    descriptors.foldl (fun open_ closed => open_.close closed) table descriptor =
      if descriptor ∈ descriptors then none else table descriptor := by
  induction descriptors generalizing table with
  | nil => rfl
  | cons first rest ih =>
    rw [List.foldl_cons, ih]
    by_cases hrest : descriptor ∈ rest
    · rw [if_pos hrest, if_pos (List.mem_cons_of_mem first hrest)]
    · rw [if_neg hrest, Descriptors.close, Function.update_apply]
      simp only [List.mem_cons, hrest, or_false]

theorem closeExtraDescriptors_apply (table : Descriptors File)
    (descriptor : Nat) :
    closeExtraDescriptors table descriptor =
      if 3 ≤ descriptor ∧ descriptor < 1024 then none else table descriptor := by
  rw [closeExtraDescriptors, close_foldl_apply]
  simp only [List.mem_range'_1]

theorem dupChain_cons {call : RedirectCall} {old new : Nat}
    {rest : List (RedirectCall × Nat × Nat)}
    (hok : (dupChain refuse ((call, old, new) :: rest) table).2 = true)
    {file : File} (hold : table old = some file) :
    dupChain refuse ((call, old, new) :: rest) table =
      dupChain refuse rest (Function.update table new (some file)) := by
  rw [dupChain, Descriptors.dup2_of_some hold] at hok ⊢
  split
  · next hrefused =>
      rw [if_pos hrefused] at hok
      cases hok
  · rfl

/-- The three standard descriptors as `redirect_standard_descriptors` leaves
them before it closes its own. -/
def standardTable (devNull stdoutPipe stderrPipe : File)
    (table : Descriptors File) : Descriptors File
  | 0 => some devNull
  | 1 => some stdoutPipe
  | 2 => some stderrPipe
  | descriptor => table descriptor

/-- What the three `dup2` calls do: no call overwrites the source of a later
one. -/
theorem dupChain_standard {null : Nat} (hstdoutLow : 3 ≤ stdoutDescriptor)
    (hstderrLow : 3 ≤ stderrDescriptor) (hnull : table null = some devNull)
    (hstdoutPipe : table stdoutDescriptor = some stdoutPipe)
    (hstderrPipe : table stderrDescriptor = some stderrPipe)
    (hok : (dupChain refuse [(.dupStdin, null, 0),
      (.dupStdout, stdoutDescriptor, 1), (.dupStderr, stderrDescriptor, 2)]
        table).2 = true) :
    (dupChain refuse [(.dupStdin, null, 0), (.dupStdout, stdoutDescriptor, 1),
      (.dupStderr, stderrDescriptor, 2)] table).1 =
        standardTable devNull stdoutPipe stderrPipe table := by
  have hfirst := dupChain_cons hok hnull
  rw [hfirst] at hok ⊢
  have hout : Function.update table 0 (some devNull) stdoutDescriptor =
      some stdoutPipe := by
    rw [Function.update_of_ne (by omega), hstdoutPipe]
  have hsecond := dupChain_cons hok hout
  rw [hsecond] at hok ⊢
  have herr : Function.update (Function.update table 0 (some devNull)) 1
      (some stdoutPipe) stderrDescriptor = some stderrPipe := by
    rw [Function.update_of_ne (by omega), Function.update_of_ne (by omega),
      hstderrPipe]
  rw [dupChain_cons hok herr]
  funext descriptor
  match descriptor with
  | 0 | 1 | 2 => rfl
  | descriptor + 3 => simp [dupChain, standardTable]

/-- What a successful redirection does: the standard descriptors are set, and
the one that `open` took is closed, whichever it is. -/
theorem redirect_ok
    (hstdout : parseDescriptor stdoutText = some stdoutDescriptor)
    (hstderr : parseDescriptor stderrText = some stderrDescriptor)
    (hstdoutPipe : table stdoutDescriptor = some stdoutPipe)
    (hstderrPipe : table stderrDescriptor = some stderrPipe)
    (hok : (redirectStandardDescriptors devNull limit refuse stdoutText
      stderrText table).2 = true) :
    ∃ nullDescriptor, table.lowestFree limit = some nullDescriptor ∧
      (redirectStandardDescriptors devNull limit refuse stdoutText stderrText
        table).1 = (standardTable devNull stdoutPipe stderrPipe table).close
          nullDescriptor := by
  obtain ⟨hstdoutLow, -⟩ := parseDescriptor_range hstdout
  obtain ⟨hstderrLow, -⟩ := parseDescriptor_range hstderr
  unfold redirectStandardDescriptors at hok ⊢
  simp only [hstdout, hstderr] at hok ⊢
  split at hok
  · cases hok
  next hdistinct =>
  split at hok
  · cases hok
  next hopen =>
  rw [if_neg hdistinct, if_neg hopen]
  cases hfree : table.lowestFree limit with
  | none =>
    rw [Descriptors.openFile, hfree] at hok
    cases hok
  | some null =>
    obtain ⟨hnone, -⟩ := Descriptors.lowestFree_spec hfree
    have hopened : table.openFile limit devNull =
        some (null, Function.update table null (some devNull)) := by
      rw [Descriptors.openFile, hfree]
      rfl
    -- the pipes are open, so `open` took neither of their descriptors
    have hkept : ∀ {descriptor : Nat} {file : File},
        table descriptor = some file →
          Function.update table null (some devNull) descriptor = some file := by
      intro descriptor file hfile
      rw [Function.update_of_ne, hfile]
      rintro rfl
      exact absurd (hnone.symm.trans hfile).symm (Option.some_ne_none file)
    simp only [hopened] at hok ⊢
    refine ⟨null, rfl, ?_⟩
    rw [dupChain_standard hstdoutLow hstderrLow (Function.update_self ..)
      (hkept hstdoutPipe) (hkept hstderrPipe) hok]
    funext descriptor
    simp only [Descriptors.close, Function.update_apply]
    split
    · rfl
    · next hother =>
        match descriptor with
        | 0 | 1 | 2 => rfl
        | descriptor + 3 => exact Function.update_of_ne hother _ _

/-- At `execv` the standard descriptors are the only ones, but the lowest that
was free at the start is closed again. -/
theorem descriptorsAtExec_eq
    (hstdout : parseDescriptor stdoutText = some stdoutDescriptor)
    (hstderr : parseDescriptor stderrText = some stderrDescriptor)
    (hstdoutPipe : table stdoutDescriptor = some stdoutPipe)
    (hstderrPipe : table stderrDescriptor = some stderrPipe)
    (hbelow : ∀ descriptor, 1024 ≤ descriptor → table descriptor = none)
    (hexec : descriptorsAtExec devNull limit refuse stdoutText stderrText
      table = some final) :
    ∃ nullDescriptor, table.lowestFree limit = some nullDescriptor ∧
      final = (standardTable devNull stdoutPipe stderrPipe
        fun _ => none).close nullDescriptor := by
  unfold descriptorsAtExec at hexec
  simp only at hexec
  split at hexec
  · next hok =>
      obtain ⟨null, hfree, hredirected⟩ :=
        redirect_ok hstdout hstderr hstdoutPipe hstderrPipe hok
      refine ⟨null, hfree, ?_⟩
      rw [← Option.some.inj hexec, hredirected]
      funext descriptor
      rw [closeExtraDescriptors_apply, Descriptors.close, Descriptors.close,
        Function.update_apply, Function.update_apply]
      match descriptor with
      | 0 | 1 | 2 => rfl
      | descriptor + 3 =>
        by_cases hlow : descriptor + 3 < 1024
        · simp [standardTable, hlow]
        · simp [standardTable, hlow, hbelow (descriptor + 3) (by omega)]
  · cases hexec

/-- The program reaches `execv` with exactly its standard descriptors,
`/dev/null` and the two pipes, if and only if it was started with all three of
them open; the lowest one that was closed is closed again. -/
theorem descriptorsAtExec_standard
    (hstdout : parseDescriptor stdoutText = some stdoutDescriptor)
    (hstderr : parseDescriptor stderrText = some stderrDescriptor)
    (hstdoutPipe : table stdoutDescriptor = some stdoutPipe)
    (hstderrPipe : table stderrDescriptor = some stderrPipe)
    (hbelow : ∀ descriptor, 1024 ≤ descriptor → table descriptor = none)
    (hexec : descriptorsAtExec devNull limit refuse stdoutText stderrText
      table = some final) :
    ((final 0 = some devNull ∧ final 1 = some stdoutPipe ∧
      final 2 = some stderrPipe ∧
      ∀ descriptor, 3 ≤ descriptor → final descriptor = none) ↔
        ∀ descriptor < 3, (table descriptor).isSome = true) ∧
    ∀ descriptor, table descriptor = none →
      (∀ lower < descriptor, (table lower).isSome = true) →
        final descriptor = none := by
  obtain ⟨null, hfree, rfl⟩ := descriptorsAtExec_eq hstdout hstderr hstdoutPipe
    hstderrPipe hbelow hexec
  obtain ⟨hnone, hsome⟩ := Descriptors.lowestFree_spec hfree
  have hopen : ∀ descriptor, (table descriptor).isSome = true →
      descriptor ≠ null := by
    rintro descriptor hisSome rfl
    rw [hnone] at hisSome
    cases hisSome
  have hnull : (standardTable devNull stdoutPipe stderrPipe
      fun _ => none).close null null = none := Function.update_self ..
  refine ⟨⟨?_, fun hstandard => ?_⟩, fun descriptor hclosed hlower => ?_⟩
  · rintro ⟨hin, hout, herr, -⟩ descriptor hlow
    refine hsome descriptor (Nat.lt_of_lt_of_le hlow (Nat.le_of_not_lt ?_))
    -- `null` is none of the three, since these are open
    intro hstandard
    obtain rfl | rfl | rfl : null = 0 ∨ null = 1 ∨ null = 2 := by omega
    · exact absurd (hnull.symm.trans hin) (Option.some_ne_none _).symm
    · exact absurd (hnull.symm.trans hout) (Option.some_ne_none _).symm
    · exact absurd (hnull.symm.trans herr) (Option.some_ne_none _).symm
  · have hother : ∀ descriptor < 3, descriptor ≠ null := fun descriptor hlow =>
      hopen descriptor (hstandard descriptor hlow)
    refine ⟨Function.update_of_ne (hother 0 (by decide)) ..,
      Function.update_of_ne (hother 1 (by decide)) ..,
      Function.update_of_ne (hother 2 (by decide)) ..,
      fun descriptor hhigh => ?_⟩
    obtain ⟨rest, rfl⟩ := Nat.exists_eq_add_of_le' hhigh
    rw [Descriptors.close, Function.update_apply]
    exact ite_self none
  · have hsame : descriptor = null := by
      rcases Nat.lt_trichotomy descriptor null with hlt | heq | hgt
      · rw [← Option.not_isSome_iff_eq_none] at hclosed
        exact absurd (hsome descriptor hlt) hclosed
      · exact heq
      · exact absurd rfl (hopen null (hlower null hgt))
    rw [hsame, hnull]

end Tables

inductive JobFile
  | devNull | stdoutPipe | stderrPipe | console
deriving DecidableEq

/-- A table with the pipes at 3 and 4, started with or without a standard
input. -/
def startTable (stdin : Bool) : Descriptors JobFile
  | 0 => if stdin then some .console else none
  | 1 | 2 => some .console
  | 3 => some .stdoutPipe
  | 4 => some .stderrPipe
  | _ => none

theorem startTable_below (stdin : Bool) (descriptor : Nat)
    (hhigh : 1024 ≤ descriptor) : startTable stdin descriptor = none := by
  obtain ⟨rest, rfl⟩ : ∃ rest, descriptor = rest + 5 :=
    ⟨descriptor - 5, by omega⟩
  rfl

theorem exists_descriptorsAtExec (stdin : Bool) :
    ∃ final, descriptorsAtExec .devNull 16 (fun _ => false) ['3'] ['4']
      (startTable stdin) = some final := by
  rw [← Option.isSome_iff_exists]
  cases stdin with
  | false | true => decide

theorem startTable_descriptorsAtExec_standard :
    ∃ final, descriptorsAtExec .devNull 16 (fun _ => false) ['3'] ['4']
        (startTable true) = some final ∧
      final 0 = some .devNull ∧ final 1 = some .stdoutPipe ∧
      final 2 = some .stderrPipe ∧
      ∀ descriptor, 3 ≤ descriptor → final descriptor = none := by
  obtain ⟨final, hexec⟩ := exists_descriptorsAtExec true
  exact ⟨final, hexec, (descriptorsAtExec_standard
    (by decide : parseDescriptor ['3'] = some 3)
    (by decide : parseDescriptor ['4'] = some 4)
    (rfl : startTable true 3 = some .stdoutPipe)
    (rfl : startTable true 4 = some .stderrPipe) (startTable_below true)
    hexec).1.mpr (by decide)⟩

/-- Started without a standard input, the program executes the job without
one. -/
theorem startTable_loses_stdin :
    ∃ final, descriptorsAtExec .devNull 16 (fun _ => false) ['3'] ['4']
        (startTable false) = some final ∧ final 0 = none := by
  obtain ⟨final, hexec⟩ := exists_descriptorsAtExec false
  obtain ⟨null, hfree, rfl⟩ := descriptorsAtExec_eq
    (by decide : parseDescriptor ['3'] = some 3)
    (by decide : parseDescriptor ['4'] = some 4)
    (rfl : startTable false 3 = some .stdoutPipe)
    (rfl : startTable false 4 = some .stderrPipe) (startTable_below false) hexec
  obtain rfl : null = 0 := Option.some.inj (hfree.symm.trans (by decide))
  exact ⟨_, hexec, rfl⟩

end Micronux
