/-
The descriptors of a supervisor: what it opens, marks and closes on each path
through `run_job`, over whatever table it was started with.
-/
import Micronux.JobLaunch

namespace Micronux.Job

open Concurrent Protocol

section Tables

/-- The table of a supervisor: the one it was started with and some
descriptors of its own, marked at most where the list says so. -/
structure Opened (launch : Launch) (mine : List (Nat × Handle))
    (table : Descriptors Handle) : Prop where
  fresh : ∀ descriptor ∈ mine.map Prod.fst, launch.handles descriptor = none
  low : ∀ descriptor ∈ mine.map Prod.fst, descriptor < launch.limit
  nodup : (mine.map Prod.fst).Nodup
  found : ∀ entry ∈ mine, ∃ marked, (marked = true → entry.2.cloexec = true) ∧
    table entry.1 = some ⟨entry.2.file, marked⟩
  others : ∀ descriptor, descriptor ∉ mine.map Prod.fst →
    table descriptor = launch.handles descriptor

variable {launch : Launch} {n descriptor : Nat} {table opened : Descriptors Handle}
  {mine first last : List (Nat × Handle)} {handle : Handle} {file : OpenFile}
  {stream : JobStream} {pair stdout stderr : Nat × Nat}

theorem opened_nil : Opened launch [] launch.handles :=
  ⟨by simp, by simp, List.nodup_nil, by simp, fun _ _ => rfl⟩

theorem Opened.eq (hopened : Opened launch [] table) : table = launch.handles :=
  funext fun descriptor => hopened.others descriptor List.not_mem_nil

/-- `open` takes a descriptor that is new. -/
theorem Opened.open {marked : Bool} (hopened : Opened launch mine table)
    (hopen : table.openFile launch.limit ⟨handle.file, marked⟩ =
      some (descriptor, opened))
    (hmarked : marked = true → handle.cloexec = true) :
    Opened launch (mine ++ [(descriptor, handle)]) opened := by
  obtain ⟨_, hfree, hsame⟩ := Option.bind_eq_some_iff.mp hopen
  cases hsame
  obtain ⟨hnone, -⟩ := Descriptors.lowestFree_spec hfree
  have hlow : descriptor < launch.limit :=
    List.mem_range.mp (List.mem_of_find?_eq_some hfree)
  have hnew : descriptor ∉ mine.map Prod.fst := by
    intro hmem
    obtain ⟨entry, hentry, rfl⟩ := List.mem_map.mp hmem
    obtain ⟨_, -, hfound⟩ := hopened.found entry hentry
    exact Option.some_ne_none _ (hfound.symm.trans hnone)
  have hfresh : launch.handles descriptor = none :=
    (hopened.others descriptor hnew).symm.trans hnone
  constructor
  · rw [List.map_append]
    exact List.forall_mem_append.mpr
      ⟨hopened.fresh, List.forall_mem_singleton.mpr hfresh⟩
  · rw [List.map_append]
    exact List.forall_mem_append.mpr
      ⟨hopened.low, List.forall_mem_singleton.mpr hlow⟩
  · rw [List.map_append]
    apply hopened.nodup.append (List.nodup_singleton descriptor)
    exact List.disjoint_singleton.mpr hnew
  · simp only [List.forall_mem_append, List.forall_mem_singleton]
    refine ⟨?_, marked, hmarked, Function.update_self ..⟩
    intro entry hentry
    rw [Function.update_of_ne]
    · exact hopened.found entry hentry
    · rintro rfl
      exact hnew (List.mem_map_of_mem hentry)
  · intro other hother
    simp only [List.map_append, List.map_cons, List.map_nil, List.mem_append,
      List.mem_singleton, not_or] at hother
    rw [Function.update_of_ne hother.2]
    exact hopened.others other hother.1

theorem Opened.close
    (hopened : Opened launch (first ++ (descriptor, handle) :: last) table) :
    Opened launch (first ++ last) (table.close descriptor) := by
  have hnodup := hopened.nodup
  rw [List.map_append, List.map_cons, List.nodup_middle, List.nodup_cons,
    ← List.map_append] at hnodup
  have hmem : ∀ {entry : Nat × Handle}, entry ∈ first ++ last →
      entry ∈ first ++ (descriptor, handle) :: last := by
    intro entry
    simp only [List.mem_append, List.mem_cons]
    exact Or.imp_right .inr
  have hkey : ∀ {key : Nat}, key ∈ (first ++ last).map Prod.fst →
      key ∈ (first ++ (descriptor, handle) :: last).map Prod.fst :=
    fun hmap => List.map_subset _ (fun _ => hmem) hmap
  constructor
  · exact fun key hmap => hopened.fresh key (hkey hmap)
  · exact fun key hmap => hopened.low key (hkey hmap)
  · exact hnodup.2
  · intro entry hentry
    rw [Descriptors.close, Function.update_of_ne]
    · exact hopened.found entry (hmem hentry)
    · intro hsame
      have hmap : entry.1 ∈ (first ++ last).map Prod.fst :=
        List.mem_map_of_mem hentry
      exact hnodup.1 (hsame ▸ hmap)
  · intro key hmap
    rw [Descriptors.close, Function.update_apply]
    split
    · next hsame =>
        subst hsame
        symm
        apply hopened.fresh
        simp
    · next hother =>
        apply hopened.others
        simpa [hother] using hmap

theorem Opened.cloexec (hopened : Opened launch mine table)
    (hmem : (descriptor, ⟨file, true⟩) ∈ mine) :
    Opened launch mine (setCloexec descriptor table) := by
  obtain ⟨marked, -, hfound⟩ := hopened.found _ hmem
  rw [setCloexec, hfound]
  dsimp only
  refine ⟨hopened.fresh, hopened.low, hopened.nodup, ?_, ?_⟩
  · intro entry hentry
    by_cases hsame : entry.1 = descriptor
    · obtain rfl := List.inj_on_of_nodup_map hopened.nodup hentry hmem hsame
      exact ⟨true, fun _ => rfl, Function.update_self ..⟩
    · rw [Function.update_of_ne hsame]
      exact hopened.found entry hentry
  · intro key hkey
    rw [Function.update_of_ne]
    · exact hopened.others key hkey
    · rintro rfl
      exact hkey (List.mem_map_of_mem hmem)

theorem openHandle_triple : alone.Triple () (Opened launch mine)
      (openHandle launch.limit handle) fun result => Opened launch
        (mine ++ (result.map fun taken => (taken, handle)).toList) := by
  apply Triple.alone_total
  intro input table hopened
  have hsame : Opened launch (mine ++ []) table := by
    rwa [List.append_nil]
  cases hopen : table.openFile launch.limit handle with
  | none => exact hsame
  | some out =>
    dsimp only
    split
    · exact hopened.open hopen id
    · exact hsame

def pipeHandles (n : Nat) (stream : JobStream) (pair : Nat × Nat) :
    List (Nat × Handle) :=
  [(pair.1, ⟨.pipe n stream false, true⟩), (pair.2, ⟨.pipe n stream true, false⟩)]

theorem makePipe_triple : alone.Triple () (Opened launch mine)
      (makePipe launch.limit n stream) fun result => Opened launch
        (mine ++ (result.map (pipeHandles n stream)).getD []) := by
  apply Triple.alone_total
  intro input table hopened
  have hsame : Opened launch (mine ++ []) table := by
    rwa [List.append_nil]
  cases hread : table.openFile launch.limit ⟨.pipe n stream false, false⟩ with
  | none => exact hsame
  | some readEnd =>
    have hfirst : Opened launch
        (mine ++ [(readEnd.1, ⟨.pipe n stream false, true⟩)]) readEnd.2 :=
      hopened.open hread fun _ => rfl
    cases hwrite : readEnd.2.openFile launch.limit ⟨.pipe n stream true, false⟩ with
    | none =>
      simp only [hwrite]
      exact hsame
    | some writeEnd =>
      simp only [hwrite]
      split
      · have hboth : Opened launch (mine ++
            [(readEnd.1, ⟨.pipe n stream false, true⟩)] ++
            [(writeEnd.1, ⟨.pipe n stream true, false⟩)]) writeEnd.2 :=
          hfirst.open hwrite id
        rw [List.append_assoc] at hboth
        exact hboth
      · exact hsame

theorem closeHandle_triple : alone.Triple ()
      (Opened launch (first ++ (descriptor, handle) :: last))
      (closeHandle descriptor) fun _ => Opened launch (first ++ last) := by
  apply Triple.store (stable_alone _) (stable_alone _)
  exact fun table _ hopened => ⟨trivial, trivial, hopened.close⟩

theorem closePair_triple : alone.Triple ()
      (Opened launch (first ++ (pipeHandles n stream pair ++ last)))
      (closePair (some pair)) fun _ => Opened launch (first ++ last) :=
  closeHandle_triple.bind fun _ => closeHandle_triple

/-- Two calls of which the second changes what it may. -/
theorem grants_triple {change : Descriptors Handle → Descriptors Handle}
    {pre : Descriptors Handle → Prop}
    (hchange : ∀ table, pre table → pre (change table)) :
    alone.Triple () pre
      (Prog.allOf ([id, change].map (Prog.grant Input.ok))) fun _ => pre := by
  apply Triple.allOf (stable_alone pre)
  simp only [List.map_cons, List.map_nil, List.forall_mem_cons]
  have hgrant : ∀ change : Descriptors Handle → Descriptors Handle,
      (∀ table, pre table → pre (change table)) →
        alone.Triple () pre (Prog.grant Input.ok change) fun _ => pre := by
    intro change hkept
    apply (Triple.alone_grant hkept fun _ => id).mono (fun _ _ => id)
    intro passed table hpre
    rwa [ite_self] at hpre
  exact ⟨hgrant id fun _ => id, hgrant change hchange, List.forall_mem_nil _⟩

/-- Whatever is marked and whatever is refused, the descriptors stay. -/
theorem prepareReadEnds_triple {first second : OpenFile}
    (hstdout : (stdout.1, ⟨first, true⟩) ∈ mine)
    (hstderr : (stderr.1, ⟨second, true⟩) ∈ mine) :
    alone.Triple () (Opened launch mine) (prepareReadEnds stdout.1 stderr.1)
      fun _ => Opened launch mine := by
  apply Triple.allOf (stable_alone _)
  simp only [List.forall_mem_cons]
  exact ⟨grants_triple fun _ hopened => hopened.cloexec hstdout,
    grants_triple fun _ hopened => hopened.cloexec hstderr,
    grants_triple fun _ => id, grants_triple fun _ => id,
    List.forall_mem_nil _⟩

/-- The descriptors of `run_job` behind its pipes. -/
def pipesOf (n : Nat) : Option ((Nat × Nat) × (Nat × Nat)) → List (Nat × Handle)
  | some (stdout, stderr) =>
    pipeHandles n .stdout stdout ++ pipeHandles n .stderr stderr
  | none => []

/-- Both pipes are closed, whatever was marked. -/
theorem closePipes_triple : alone.Triple ()
      (Opened launch (mine ++ pipesOf n (some (stdout, stderr))))
      (closePipes (some stdout) (some stderr))
      fun _ => Opened launch mine := by
  have hstderr : alone.Triple () (Opened launch
      (mine ++ (pipeHandles n .stderr stderr ++ [])))
      (closePair (some stderr)) fun _ => Opened launch (mine ++ []) :=
    closePair_triple
  simp only [List.append_nil] at hstderr
  exact closePair_triple.bind fun _ => hstderr

theorem preparePipes_triple : alone.Triple () (Opened launch mine)
      (preparePipes launch.limit n) fun result =>
        Opened launch (mine ++ pipesOf n result) := by
  apply makePipe_triple.bind
  rintro (_ | stdout)
  · exact Triple.alone_ret fun _ => id
  apply makePipe_triple.bind
  rintro (_ | stderr)
  · have hclose : alone.Triple () (Opened launch
        (mine ++ (pipeHandles n .stdout stdout ++ [])))
        (closePipes (some stdout) none) fun _ =>
          Opened launch (mine ++ []) :=
      closePair_triple.bind fun _ => Triple.alone_ret fun _ => id
    rw [← List.append_assoc] at hclose
    apply hclose.bind
    intro _
    exact Triple.alone_ret fun _ => id
  · rw [Option.map_some, Option.getD_some, Option.map_some, Option.getD_some,
      List.append_assoc]
    have hstdout : (stdout.1, ⟨.pipe n .stdout false, true⟩) ∈
        mine ++ pipesOf n (some (stdout, stderr)) := by
      simp [pipesOf, pipeHandles]
    have hstderr : (stderr.1, ⟨.pipe n .stderr false, true⟩) ∈
        mine ++ pipesOf n (some (stdout, stderr)) := by
      simp [pipesOf, pipeHandles]
    apply (prepareReadEnds_triple hstdout hstderr).bind
    rintro (_ | _)
    · apply closePipes_triple.bind
      intro _
      apply Triple.alone_ret
      intro table hopened
      rwa [← List.append_nil mine] at hopened
    · exact Triple.alone_ret fun _ => id

end Tables

end Micronux.Job
