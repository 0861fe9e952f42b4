import LineClock.Proofs.Profiler.Watch

/-!
# Looking for source text

As long as no file is written a lookup answers the same whenever it is made, so a profiler that has
looked for something it did not find goes on like one that has not: they are `Twin`s. A profiler is
`Blind` to a native block of which watching would make nothing. A block is `Spent` once a profiler
watches it, or has looked for its lines in vain; watching it again changes nothing at all.

Main statements: `Twin.watch`, `Blind.watch` and `Spent.watch`.
-/

namespace LineClock

/-- What a lookup finds it finds again, and it hides nothing else. -/
theorem Sources.lines_lookup (s : Sources) (files : Files) (name name' : String) :
    (s.lookup files name).2.lines files name' = s.lines files name' := by
  cases s with
  | none | memory texts => rfl
  | disk seen =>
    unfold lines lookup
    simp only
    cases there : seen.get? name with
    | some found => rfl
    | none =>
      simp only [Assoc.get?_set]
      by_cases here : name = name'
      · subst here
        rw [if_pos rfl, there]
      · rw [if_neg here]
        cases seen.get? name' <;> rfl

namespace Sources

theorem lookup_seen {seen : Assoc String (Option (List String))} {name : String}
    {found : Option (List String)} (there : seen.get? name = some found) (files : Files) :
    (disk seen).lookup files name = (found, disk seen) := by
  unfold lookup
  simp only [there]

/-- A file is not looked at twice. -/
theorem lookup_lookup (s : Sources) (files : Files) (name : String) :
    ((s.lookup files name).2.lookup files name).2 = (s.lookup files name).2 := by
  cases s with
  | none | memory texts => rfl
  | disk seen =>
    cases there : seen.get? name with
    | some found => rw [lookup_seen there, lookup_seen there]
    | none =>
      have once : ((disk seen).lookup files name).2 =
          disk (seen.set name ((files.readText name).toOption.map Text.lines)) := by
        unfold lookup
        simp only [there]
      rw [once, lookup_seen (Assoc.get?_set_self _ _ _)]

/-- A file that was looked at is not looked at again, whatever else is. -/
theorem lookup_settled {s : Sources} {files : Files} {name : String}
    (settled : (s.lookup files name).2 = s) (other : String) :
    ((s.lookup files other).2.lookup files name).2 = (s.lookup files other).2 := by
  by_cases same : other = name
  · rw [same, settled, settled]
  · cases s with
    | none | memory texts => rfl
    | disk seen =>
      obtain ⟨found, there⟩ : ∃ found, seen.get? name = some found := by
        cases there : seen.get? name with
        | some found => exact ⟨found, rfl⟩
        | none =>
          simp only [lookup, there, disk.injEq] at settled
          rw [← settled, Assoc.get?_set_self] at there
          cases there
      cases there' : seen.get? other with
      | some found' => rw [lookup_seen there', lookup_seen there]
      | none =>
        have once : ((disk seen).lookup files other).2 =
            disk (seen.set other ((files.readText other).toOption.map Text.lines)) := by
          unfold lookup
          simp only [there']
        rw [once, lookup_seen ((Assoc.get?_set_ne _ _ same).trans there)]

end Sources

namespace Profiler

open Machine

variable {files : Files} {block : Block} {p p' : Profiler}

/-! ## Watching, told -/

/-- The lines of a block, if they can be told. -/
def found (files : Files) (block : Block) (p : Profiler) : Except ProfilerError (List UInt32) :=
  if block.native then
    match (p.sources.lines files block.file).bind (Source.blockLength? · block.firstLine) with
    | some length => .ok (span block.firstLine length)
    | none => .error (.source block.name block.file block.firstLine)
  else
    match refusal? block with
    | some e => .error e
    | none => .ok block.lines

/-- A profiler that has looked for the text of a block, if it has to. -/
def searched (files : Files) (block : Block) (p : Profiler) : Profiler :=
  { p with
    sources := if block.native then (p.sources.lookup files block.file).2 else p.sources }

theorem answer_linesOf (files : Files) (block : Block) (p : Profiler) :
    answer (linesOf files block) p = (p.found files block, p.searched files block) := by
  unfold linesOf found searched
  split
  · rw [answer_get_bind]
    unfold Sources.lines
    rcases p.sources.lookup files block.file with ⟨text, sources⟩
    simp only
    rw [answer_bind_ok (answer_set _ _)]
    cases text.bind (Source.blockLength? · block.firstLine) <;> rfl
  · cases refusal? block <;> rfl

/-- **What watching does.** -/
theorem answer_watch (files : Files) (block : Block) (p : Profiler) :
    answer (watch files block) p =
      if p.watches block.identity then (.ok false, p)
      else match p.found files block with
        | .error e => (.error e, p.searched files block)
        | .ok lines => (.ok true, (p.searched files block).enter block lines) := by
  unfold watch
  rw [answer_get_bind]
  by_cases known : p.watches block.identity
  · rw [if_pos known, if_pos known]
    rfl
  · rw [if_neg known, if_neg known, answer_bind, answer_linesOf]
    cases p.found files block <;> rfl

/-- The number of a block has no part in watching it, but for its identity. -/
theorem watch_renumbered {id : BlockId} (same : ({ block with id } : Block).identity = block.identity) :
    watch files { block with id } = watch files block := by
  unfold watch
  rw [same]
  have lines : linesOf files { block with id } = linesOf files block := rfl
  have enter : ∀ (p : Profiler) lines, p.enter { block with id } lines = p.enter block lines := by
    intro p lines
    unfold enter
    rw [same]
    rfl
  rw [lines]
  simp only [enter]

/-! ## Twins -/

/-- Profilers that differ in nothing but in what they have looked for already. -/
structure Twin (files : Files) (p p' : Profiler) : Prop where
  same : { p with sources := p'.sources } = p'
  agree : ∀ name, p.sources.lines files name = p'.sources.lines files name

namespace Twin

theorem refl (files : Files) (p : Profiler) : Twin files p p := ⟨rfl, fun _ => rfl⟩

theorem symm (h : Twin files p p') : Twin files p' p := by
  refine ⟨?_, fun name => (h.agree name).symm⟩
  rw [← h.same]

theorem trans {p'' : Profiler} (h : Twin files p p') (h' : Twin files p' p'') : Twin files p p'' := by
  refine ⟨?_, fun name => (h.agree name).trans (h'.agree name)⟩
  rw [← h'.same, ← h.same]

/-- Looking for text makes no difference. -/
theorem searched (files : Files) (block : Block) (p : Profiler) :
    Twin files (p.searched files block) p := by
  refine ⟨rfl, fun name => ?_⟩
  unfold Profiler.searched
  simp only
  split
  · exact p.sources.lines_lookup files block.file name
  · rfl

theorem enter (h : Twin files p p') (block : Block) (lines : List UInt32) :
    Twin files (p.enter block lines) (p'.enter block lines) := by
  obtain ⟨same, agree⟩ := h
  refine ⟨?_, agree⟩
  rw [← same]
  rfl

theorem addRoutine (h : Twin files p p') (routine : RoutineId) :
    Twin files (p.addRoutine routine) (p'.addRoutine routine) := by
  obtain ⟨same, agree⟩ := h
  have routines : p'.routines = p.routines := by rw [← same]
  rw [addRoutine_eq, addRoutine_eq, routines]
  refine ⟨?_, agree⟩
  rw [← same]

theorem found (h : Twin files p p') (block : Block) : p.found files block = p'.found files block := by
  unfold Profiler.found
  rw [h.agree]

theorem watches (h : Twin files p p') (b : BlockHash) : p.watches b = p'.watches b := by
  rw [← h.same]
  rfl

/-- **Twins answer the same**, and stay twins. -/
theorem watch (h : Twin files p p') (block : Block) :
    (answer (Profiler.watch files block) p).1 = (answer (Profiler.watch files block) p').1 ∧
      Twin files (answer (Profiler.watch files block) p).2
        (answer (Profiler.watch files block) p').2 := by
  have both : Twin files (p.searched files block) (p'.searched files block) :=
    ((searched files block p).trans h).trans (searched files block p').symm
  rw [answer_watch, answer_watch, h.watches, h.found]
  split
  · exact ⟨rfl, h⟩
  · cases p'.found files block with
    | error e => exact ⟨rfl, both⟩
    | ok lines => exact ⟨rfl, both.enter block lines⟩

end Twin

/-! ## Blindness -/

/-- A profiler that would learn nothing from watching a native block. -/
def Blind (files : Files) (block : Block) (p : Profiler) : Prop :=
  p.watches block.identity = true ∨
    (p.sources.lines files block.file).bind (Source.blockLength? · block.firstLine) = none

namespace Blind

theorem of_error (native : block.native = true) {error : ProfilerError}
    (failed : (answer (Profiler.watch files block) p).1 = .error error) : Blind files block p := by
  rw [answer_watch] at failed
  split at failed
  · cases failed
  · unfold found at failed
    rw [if_pos native] at failed
    cases text : (p.sources.lines files block.file).bind
        (Source.blockLength? · block.firstLine) with
    | none => exact .inr text
    | some length =>
      rw [text] at failed
      cases failed

/-- A blind profiler stays what it is. -/
theorem twin (h : Blind files block p) (native : block.native = true) :
    Twin files (answer (Profiler.watch files block) p).2 p := by
  rw [answer_watch]
  split
  · exact .refl files p
  · rename_i unknown
    have none := h.resolve_left unknown
    have failed : p.found files block =
        .error (.source block.name block.file block.firstLine) := by
      unfold found
      rw [if_pos native, none]
    rw [failed]
    exact .searched files block p

theorem congr (h : Blind files block p) (twin : Twin files p p') : Blind files block p' := by
  unfold Blind at h ⊢
  rwa [← twin.watches, ← twin.agree]

theorem addRoutine (h : Blind files block p) (routine : RoutineId) :
    Blind files block (p.addRoutine routine) := by
  rw [addRoutine_eq]
  exact h

/-- **A profiler stays blind**, whatever else it watches. -/
theorem watch (h : Blind files block p) (other : Block) :
    Blind files block (answer (Profiler.watch files other) p).2 := by
  rcases h with known | none
  · exact .inl ((watch_enriched files other p).watches _ known)
  · refine .inr ?_
    have sources : (answer (Profiler.watch files other) p).2.sources.lines files block.file =
        p.sources.lines files block.file := by
      rw [answer_watch]
      split
      · rfl
      · cases p.found files other with
        | error e => exact (Twin.searched files other p).agree _
        | ok lines => exact (Twin.searched files other p).agree _
    rw [sources]
    exact none

end Blind

/-! ## Blocks that are spent -/

/-- A profiler has made of a block what it can: it watches it, or it has looked in vain. -/
def Spent (files : Files) (block : Block) (p : Profiler) : Prop :=
  p.watches block.identity = true ∨
    (∃ error, p.found files block = .error error) ∧ p.searched files block = p

namespace Spent

theorem searched_iff : p.searched files block = p ↔
    (block.native = true → (p.sources.lookup files block.file).2 = p.sources) := by
  cases native : block.native with
  | false => simp [searched, native]
  | true =>
    refine ⟨fun same _ => ?_, fun same => ?_⟩
    · have sources := congrArg Profiler.sources same
      simpa [searched, native] using sources
    · simp [searched, native, same]

/-- Nothing is looked for twice. -/
theorem searched_searched (files : Files) (block : Block) (p : Profiler) :
    (p.searched files block).searched files block = p.searched files block := by
  refine searched_iff.mpr fun native => ?_
  unfold searched
  simp only [if_pos native]
  exact p.sources.lookup_lookup files block.file

/-- What was looked for is not looked for again, whatever else is. -/
theorem searched_settled (h : p.searched files block = p) (other : Block) :
    (p.searched files other).searched files block = p.searched files other := by
  refine searched_iff.mpr fun native => ?_
  have settled := searched_iff.mp h native
  unfold searched
  simp only
  split
  · exact Sources.lookup_settled settled other.file
  · exact settled

/-- Nothing but what is watched and the source text counts. -/
theorem of_sources (h : Spent files block p) {p' : Profiler} (sources : p'.sources = p.sources)
    (watches : p.watches block.identity = true → p'.watches block.identity = true) :
    Spent files block p' := by
  refine h.imp watches fun ⟨⟨error, found⟩, searched⟩ => ⟨⟨error, ?_⟩, ?_⟩
  · have same : p'.found files block = p.found files block := by
      unfold Profiler.found
      rw [sources]
    rw [same, found]
  · rw [searched_iff] at searched ⊢
    rwa [sources]

theorem addRoutine (h : Spent files block p) (routine : RoutineId) :
    Spent files block (p.addRoutine routine) := by
  rw [addRoutine_eq]
  exact h.of_sources rfl id

/-- **A block stays spent**, whatever else is watched. -/
theorem watch (h : Spent files block p) (other : Block) :
    Spent files block (answer (Profiler.watch files other) p).2 := by
  have looked : Spent files block (p.searched files other) := by
    refine h.imp id fun ⟨⟨error, found⟩, searched⟩ => ⟨⟨error, ?_⟩, searched_settled searched other⟩
    rw [(Twin.searched files other p).found, found]
  rw [answer_watch]
  split
  · exact h
  · rename_i fresh
    rw [Bool.not_eq_true] at fresh
    cases p.found files other with
    | error error => exact looked
    | ok lines =>
      have unknown : (p.searched files other).watches other.identity = false := fresh
      exact looked.of_sources rfl ((Enriched.enter unknown lines).watches block.identity)

/-- A block that was watched, or not, is spent. -/
theorem of_watch (files : Files) (block : Block) (p : Profiler) :
    Spent files block (answer (Profiler.watch files block) p).2 := by
  rw [answer_watch]
  split
  · rename_i known
    exact .inl known
  · cases found : p.found files block with
    | error error =>
      refine .inr ⟨⟨error, ?_⟩, searched_searched files block p⟩
      rw [(Twin.searched files block p).found, found]
    | ok lines => exact .inl (Option.isSome_iff_exists.mpr ⟨_, Assoc.get?_set_self _ _ _⟩)

/-- Watching a spent block changes nothing. -/
theorem again (h : Spent files block p) :
    (p.watches block.identity = true ∧ answer (Profiler.watch files block) p = (.ok false, p)) ∨
      p.watches block.identity = false ∧
        ∃ error, answer (Profiler.watch files block) p = (.error error, p) := by
  rw [answer_watch]
  cases known : p.watches block.identity with
  | true => exact .inl ⟨rfl, rfl⟩
  | false =>
    obtain ⟨⟨error, found⟩, searched⟩ := h.resolve_left fun h => by simp [known] at h
    rw [found, searched]
    exact .inr ⟨rfl, error, rfl⟩

end Spent

/-! ## Adopting a routine -/

/-- What a profiler makes of a routine whose block it is to watch. -/
def adopt (files : Files) (block : Block) (routine : RoutineId) (p : Profiler) :
    Except ProfilerError Bool × Profiler :=
  let watched := answer (Profiler.watch files block) p
  (watched.1, if watched.1.isOk then watched.2.addRoutine routine else watched.2)

end Profiler

end LineClock
