import LineClock.Proofs.Course.Basic
import LineClock.Proofs.Machine.Journal

/-!
# Calls and generators

A call drains a frame inside the machine. A generator is resumed from outside, and its frame waits in
between. Both do the same, in the same order, and end in the same way.

Main statement: `drained_by_hand`.
-/

namespace LineClock

/-- Scripts on a state with a journal, of which they do not know. -/
def Scripts.noted {σ : Type} (s : Scripts σ) : Scripts (Machine.Journal σ) where
  engine x := s.engine x.state
  withEngine x e := { x with state := s.withEngine x.state e }
  trace id frame event := ExceptT.mk (Machine.Journal.aside (s.trace id frame event).run)
  monitor id event := ExceptT.mk (Machine.Journal.aside (s.monitor id event).run)

end LineClock

namespace LineClock.Course

open Machine

variable {σ : Type} (s : Scripts σ) (host : Host σ) (budget : Nat)

/-- Resume a generator until it is finished or fails, at most so many times. -/
def resumeAll (i : Nat) : Nat → Stage σ → List Reply × Stage σ
  | 0, st => ([], st)
  | n + 1, st =>
    match Move.perform s host budget (.resume i) st with
    | (.left (.ok .yielded), st) =>
      let (replies, st) := resumeAll i n st
      (.left (.ok .yielded) :: replies, st)
    | (reply, st) => ([reply], st)

/-- Resuming a generator that waits. -/
theorem perform_resume {i : Nat} {st : Stage σ} {routine : RoutineId} {act : Activation}
    (waits : st.generators[i]? = some ⟨routine, some act⟩) :
    Move.perform s host budget (.resume i) st =
      match (step host budget routine act).out st.state with
      | (o, x) => (.left (o.map Prod.fst),
        ⟨x, st.generators.set i (Generator.after ⟨routine, some act⟩ o)⟩) := by
  unfold Move.perform
  simp only [waits]

/-- **Turn by turn**, by induction on how many there may be: a frame that is drained, and a generator
whose frame that is. -/
theorem resumeAll_eq (i : Nat) (routine : RoutineId) (rounds : Nat) :
    ∀ (st : Stage σ) (act : Activation), st.generators[i]? = some ⟨routine, some act⟩ →
      let drained := (drain host (invoke host budget (maxDepth - 1)) budget routine rounds act).out st.state
      let hand := resumeAll s host budget i rounds st
      hand.2.state = drained.2 ∧
        ((∃ n < rounds, hand.1 = List.replicate n (.left (.ok .yielded)) ++
              [.left (drained.1.map fun _ => .returned)] ∧
            hand.2.generators = st.generators.set i ⟨routine, none⟩) ∨
          drained.1 = .error .unfinished ∧ hand.1 = List.replicate rounds (.left (.ok .yielded))) := by
  induction rounds with
  | zero =>
    intro st act waits
    exact ⟨rfl, .inr ⟨rfl, rfl⟩⟩
  | succ rounds ih =>
    intro st act waits
    have made := perform_resume s host budget waits
    simp only [resumeAll, made, out_drain_succ]
    unfold step at made ⊢
    rcases (resumeScoped host (invoke host budget (maxDepth - 1)) budget routine act).out st.state with
      ⟨e | ⟨_ | _, act'⟩, x⟩
    · exact ⟨rfl, .inl ⟨0, by omega, rfl, rfl⟩⟩
    · exact ⟨rfl, .inl ⟨0, by omega, rfl, rfl⟩⟩
    · have there : i < st.generators.length := (List.getElem?_eq_some_iff.mp waits).1
      obtain ⟨state, rest⟩ := ih ⟨x, st.generators.set i ⟨routine, some act'⟩⟩ act' (by simp [there])
      refine ⟨state, ?_⟩
      rcases rest with ⟨n, less, replies, generators⟩ | ⟨unfinished, replies⟩
      · refine .inl ⟨n + 1, by omega, ?_, ?_⟩
        · rw [List.replicate_succ, List.cons_append, ← replies]
          rfl
        · rw [List.set_set] at generators
          exact generators
      · refine .inr ⟨unfinished, ?_⟩
        rw [List.replicate_succ, ← replies]
        rfl

/-- **A call does what resuming by hand does.** A generator of a routine that is resumed until it is
finished or fails leaves the same state as a call of the routine, and the same journal: the events,
the scopes and the work are the same, at the same points. Its last answer is that of the call, and it
stays finished. (If so many turns as the call has are not enough, the call says so, and the generator
has yielded each time.) -/
theorem drained_by_hand (s : Scripts σ) (host : Host σ) (budget : Nat) (routine : RoutineId)
    (st : Stage (Journal σ)) :
    let i := st.generators.length
    let called := Move.perform s.noted host.noted budget (.call routine) st
    let made := Move.perform s.noted host.noted budget (.generator routine) st
    let hand := resumeAll s.noted host.noted budget i budget made.2
    made.1 = .number i ∧ hand.2.state = called.2.state ∧ ∃ o, called.1 = .ran o ∧
      ((∃ n < budget, hand.1 = List.replicate n (.left (.ok .yielded)) ++
            [.left (o.map fun _ => .returned)] ∧
          Move.perform s.noted host.noted budget (.resume i) hand.2 = (.left (.ok .returned), hand.2)) ∨
        o = .error .unfinished ∧ hand.1 = List.replicate budget (.left (.ok .yielded))) := by
  intro i called made hand
  let act := fresh (host.noted.newFrame st.state).1 (host.noted.code st.state routine)
  have appended : made.2.generators = st.generators ++ [⟨routine, some act⟩] := rfl
  have waits : made.2.generators[i]? = some ⟨routine, some act⟩ := by
    rw [appended]
    exact List.getElem?_concat_length
  obtain ⟨state, rest⟩ := resumeAll_eq s.noted host.noted budget i routine budget made.2 act
    waits
  refine ⟨rfl, state, _, rfl, ?_⟩
  rcases rest with ⟨n, less, replies, generators⟩ | unfinished
  · refine .inl ⟨n, less, replies, ?_⟩
    have finished : hand.2.generators[i]? = some ⟨routine, none⟩ := by
      rw [show hand.2.generators = made.2.generators.set i ⟨routine, none⟩ from generators, appended]
      simp [i]
    unfold Move.perform
    simp only [finished]
  · exact .inr unfinished

end LineClock.Course
