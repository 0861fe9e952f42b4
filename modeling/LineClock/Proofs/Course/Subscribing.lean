import LineClock.Proofs.Course.Tenancy
import Mathlib.Data.List.Infix

/-!
# A tool that changes its event set

A tool holds the profilers' id, and its callbacks set the event set of the id, any number of times and
to any sets, while profilers share it. What the profilers see is only the set that stands there when a
callback is done. They take it for the tool's own unless it is the set that they had made of the one
before; so the one set that they do not notice is the set of before together with their own kinds.

Main statements: `event_sets_followed` and `widened_set_overlooked`.
-/

namespace LineClock.Course

open Machine Engine

variable {τ : Type} {t t' : Tenure registry} {own : EventSet}

/-! ## Sets that a tool installs -/

/-- The set that an operation installs. -/
def set? : Tamper registry → Option EventSet
  | .setEvents events => some events
  | _ => none

/-- Operations that install event sets. -/
def SetsEvents (a : Tamper registry) : Prop := ∃ events, a = .setEvents events

/-- The set that is installed last among some operations. -/
def lastSet? (acts : List (Tamper registry)) : Option EventSet := (acts.filterMap set?).getLast?

/-- The set that the tool installed last, `first` if it never installed one. -/
def installed (first : EventSet) : List (Happening registry) → EventSet
  | [] => first
  | .called _ _ _ _ acts _ :: earlier => (lastSet? acts).getD (installed first earlier)
  | _ :: earlier => installed first earlier

/-- The set that profilers take for the tool's. What is installed while they do not stand before the
callback, they find later; otherwise they compare with what they had made of the set before. -/
def followed (first : EventSet) : List (Happening registry) → EventSet
  | [] => first
  | .called _ _ _ passed acts _ :: earlier =>
    let kept := followed first earlier
    if passed then follow kept ((lastSet? acts).getD (kept.union ourEvents))
    else (lastSet? acts).getD kept
  | _ :: earlier => followed first earlier

/-- A callback to which profilers passed an event installs, instead of another set, that set together
with the profilers' kinds. -/
def Blurs (first : EventSet) (earlier : List (Happening registry)) : Happening registry → Prop
  | .called _ _ _ true acts _ =>
    lastSet? acts = some ((installed first earlier).union ourEvents) ∧
      (installed first earlier).union ourEvents ≠ installed first earlier
  | _ => False

/-- This happened at some time. -/
def Blurred (first : EventSet) : List (Happening registry) → Prop
  | [] => False
  | happening :: earlier => Blurs first earlier happening ∨ Blurred first earlier

instance (first : EventSet) (earlier : List (Happening registry)) :
    (happening : Happening registry) → Decidable (Blurs first earlier happening)
  | .called _ _ _ true acts _ =>
    inferInstanceAs (Decidable (lastSet? acts = some ((installed first earlier).union ourEvents) ∧
      (installed first earlier).union ourEvents ≠ installed first earlier))
  | .called _ _ _ false _ _ | .heard _ | .left _ | .restarted => inferInstanceAs (Decidable False)

instance Blurred.decidable (first : EventSet) :
    (history : List (Happening registry)) → Decidable (Blurred first history)
  | [] => inferInstanceAs (Decidable False)
  | happening :: earlier =>
    have := Blurred.decidable first earlier
    inferInstanceAs (Decidable (Blurs first earlier happening ∨ Blurred first earlier))

theorem Blurred.of_suffix {first : EventSet} {earlier history : List (Happening registry)}
    (h : Blurred first earlier) (suffix : earlier <:+ history) : Blurred first history := by
  obtain ⟨newer, rfl⟩ := suffix
  induction newer with
  | nil => exact h
  | cons happening newer ih => exact .inr ih

/-- Where the profilers' kinds are not just added to what a tool installed, they know its set. -/
theorem followed_eq {first : EventSet} {history : List (Happening registry)}
    (clear : ¬ Blurred first history) : followed first history = installed first history := by
  induction history with
  | nil => rfl
  | cons happening earlier ih =>
    have before : followed first earlier = installed first earlier := ih fun h => clear (.inr h)
    cases happening with
    | called thread script event passed acts action =>
      unfold followed installed
      rw [before]
      cases passed with
      | false => rfl
      | true =>
        simp only [if_true]
        unfold follow
        cases last : lastSet? acts with
        | none => exact if_pos rfl
        | some events =>
          simp only [Option.getD_some]
          split
          · rename_i same
            refine Decidable.byContradiction fun differ => clear (.inl ⟨?_, ?_⟩)
            · rw [last, same]
            · exact fun h => differ (h.symm.trans same.symm)
          · rfl
    | heard e => exact before
    | left f => exact before
    | restarted => exact before

/-- What the facility is after event sets were installed. -/
theorem all_setEvents {f : Facility} (held : (f.holder? Facility.profilerTool).isSome)
    {acts : List (Tamper registry)} (sets : ∀ a ∈ acts, SetsEvents a) :
    ∃ events, Tamper.all f acts = { f with events } ∧
      (Tamper.all f acts).eventsOf Facility.profilerTool =
        (lastSet? acts).getD (f.eventsOf Facility.profilerTool) := by
  induction acts generalizing f with
  | nil => exact ⟨f.events, rfl, rfl⟩
  | cons a rest ih =>
    obtain ⟨events, rfl⟩ := sets a List.mem_cons_self
    have installs : (Tamper.setEvents events : Tamper registry).apply f =
        { f with events := f.events.set Facility.profilerTool events } := by
      unfold Tamper.apply
      rw [Tamper.act_setEvents, if_neg fun none => by rw [Option.isNone_iff_eq_none] at none; rw [none] at held; cases held]
    obtain ⟨events', same, last⟩ := ih (f := { f with events := f.events.set Facility.profilerTool events })
      held fun a mem => sets a (List.mem_cons_of_mem _ mem)
    have steps : Tamper.all f (.setEvents events :: rest) =
        Tamper.all { f with events := f.events.set Facility.profilerTool events } rest := by
      rw [← installs]
      rfl
    refine ⟨events', steps.trans same, ?_⟩
    rw [steps, last, Facility.eventsOf_set]
    show _ = ((events :: rest.filterMap set?).getLast?).getD _
    rw [List.getLast?_cons]
    rfl

/-! ## What the profilers know -/

/-- The profilers pass on to a tool what it subscribed to, and the id has these kinds and theirs. -/
structure Subscribed (e : Engine) (kept : EventSet) : Prop where
  forwards : ∀ event : MonitorEvent,
    event.location ∉ (e.share registry).stillOff e.facility.restarts →
      ((wrappedFor registry event).run e).1 =
        if kept.contains event.kind then (e.share registry).wrapped.get? event.kind else none
  widened : e.facility.eventsOf Facility.profilerTool = kept.union ourEvents

theorem subscribed {e : Engine} {kept : EventSet} (h : Unguarded registry e)
    (monitored : e.monitored = true) (knows : (e.share registry).wrappedEvents = kept)
    (widened : e.facility.eventsOf Facility.profilerTool = kept.union ourEvents) :
    Subscribed e kept := by
  refine ⟨fun event on => ?_, widened⟩
  rw [run_wrappedFor h monitored event, if_pos h.attached]
  simp only
  have off : ¬ ((e.share registry).noticed e.facility.restarts).disabled.contains event.location = true := by
    rw [ToolShare.noticed_disabled, List.contains_iff_mem]
    exact on
  have same : ((e.share registry).noticed e.facility.restarts).wrappedEvents = kept := by
    rw [ToolShare.noticed_eq]
    exact knows
  have wrapped : ((e.share registry).noticed e.facility.restarts).wrapped = (e.share registry).wrapped := by
    rw [ToolShare.noticed_eq]
  unfold ToolShare.next?
  rw [same, wrapped]
  by_cases mem : kept.contains event.kind = true
  · rw [if_pos ⟨mem, off⟩, if_pos mem]
  · rw [if_neg fun h => mem h.1, if_neg mem]

/-- The profilers know the set that the tool installed last, as far as they can tell it. -/
structure Tracked (own : EventSet) (t : Tenure registry) : Prop where
  holder : (t.facility.holder? Facility.profilerTool).isSome
  shared : 0 < t.share.threads → t.share.owned = false ∧ t.share.reclaimed = false
  alone : t.share.threads = 0 →
    t.facility.eventsOf Facility.profilerTool = followed own t.history
  knows : 0 < t.share.threads → t.share.wrappedEvents = followed own t.history ∧
    t.facility.eventsOf Facility.profilerTool = (followed own t.history).union ourEvents
  heard : ∀ e earlier, .heard e :: earlier <:+ t.history → 0 < (e.share registry).threads →
    Subscribed e (followed own earlier)
  left : ∀ f earlier, .left f :: earlier <:+ t.history →
    f.eventsOf Facility.profilerTool = followed own earlier

namespace Tracked

/-- Nothing is added to the history but what says nothing of how things stand. -/
theorem further (h : Tracked own t) {happening : Happening registry} {f : Facility} {s : ToolShare}
    (silent : (∀ e, happening ≠ .heard e) ∧ ∀ f, happening ≠ .left f)
    (holder : (f.holder? Facility.profilerTool).isSome)
    (shared : 0 < s.threads → s.owned = false ∧ s.reclaimed = false)
    (alone : s.threads = 0 →
      f.eventsOf Facility.profilerTool = followed own (happening :: t.history))
    (knows : 0 < s.threads → s.wrappedEvents = followed own (happening :: t.history) ∧
      f.eventsOf Facility.profilerTool = (followed own (happening :: t.history)).union ourEvents) :
    Tracked own ⟨f, s, happening :: t.history⟩ := by
  refine ⟨holder, shared, alone, knows, fun e earlier mem => ?_, fun l earlier mem => ?_⟩
  · rcases List.suffix_cons_iff.mp mem with same | mem
    · exact absurd (List.cons.inj same).1.symm (silent.1 e)
    · exact h.heard e earlier mem
  · rcases List.suffix_cons_iff.mp mem with same | mem
    · exact absurd (List.cons.inj same).1.symm (silent.2 l)
    · exact h.left l earlier mem

/-- Another facility and share, with the same history. -/
theorem move (h : Tracked own t) {f : Facility} {s : ToolShare}
    (holder : (f.holder? Facility.profilerTool).isSome)
    (shared : 0 < s.threads → s.owned = false ∧ s.reclaimed = false)
    (alone : s.threads = 0 → f.eventsOf Facility.profilerTool = followed own t.history)
    (knows : 0 < s.threads → s.wrappedEvents = followed own t.history ∧
      f.eventsOf Facility.profilerTool = (followed own t.history).union ourEvents) :
    Tracked own { t with facility := f, share := s } :=
  ⟨holder, shared, alone, knows, h.heard, h.left⟩

/-- The tool itself is called. -/
theorem calls (h : Tracked own t) {thread : ThreadKey} {script : ScriptId} {event : MonitorEvent}
    {acts : List (Tamper registry)} {action : MonitorAction}
    (alone : ¬ Tenure.Fronted t.share event.kind)
    (light : event.kind = .start → ∀ a ∈ acts, a.isRestart = true) (sets : ∀ a ∈ acts, SetsEvents a) :
    Tracked own ⟨(Tamper.all t.facility acts).answered event action, t.share,
      .called thread script event false acts action :: t.history⟩ := by
  obtain ⟨events, same, last⟩ := all_setEvents h.holder sets
  have answered := (Tamper.all t.facility acts).answered_eq event action
  have sets' : ((Tamper.all t.facility acts).answered event action).eventsOf Facility.profilerTool =
      (lastSet? acts).getD (t.facility.eventsOf Facility.profilerTool) := by
    rw [answered]
    exact last
  have now : followed own (.called thread script event false acts action :: t.history) =
    (lastSet? acts).getD (followed own t.history) := rfl
  refine h.further ⟨fun _ => nofun, fun _ => nofun⟩ ?_ h.shared
    (fun off => ?_) fun on => ?_
  · rw [answered, same]
    exact h.holder
  · rw [sets', now, h.alone off]
  · -- while profilers listen the machine calls the tool for entered frames only
    have start : event.kind = .start := Tampered.kind_start fun ours => alone ⟨on, ours⟩
    have none : acts = [] := by
      refine List.eq_nil_iff_forall_not_mem.mpr fun a mem => ?_
      obtain ⟨events, rfl⟩ := sets a mem
      cases light start _ mem
    subst none
    rw [sets', now]
    exact h.knows on

/-- The profilers pass an event on to the tool. -/
theorem passes (h : Tracked own t) {thread : ThreadKey} {script : ScriptId} {event : MonitorEvent}
    {acts : List (Tamper registry)} {action : MonitorAction} {f : Facility} {s : ToolShare}
    (fronted : Tenure.Fronted t.share event.kind) (sets : ∀ a ∈ acts, SetsEvents a)
    (absorbs : Absorbs registry (Tamper.all t.facility acts) t.share f s) :
    Tracked own ⟨f, s.answered event action,
      .called thread script event true acts action :: t.history⟩ := by
  obtain ⟨events, same, last⟩ := all_setEvents h.holder sets
  obtain ⟨known, widened⟩ := h.knows fronted.1
  have kept : since t.share (Tamper.all t.facility acts) = t.share := by
    refine since_held ?_
    rw [same]
    exact h.holder
  have share := absorbs.share
  rw [kept] at share
  have now : s.wrappedEvents = followed own (.called thread script event true acts action :: t.history) := by
    rw [absorbs.events, kept, last, known, widened]
    rfl
  have on : 0 < s.threads := absorbs.threads ▸ fronted.1
  have answered := s.answered_eq event action
  refine h.further ⟨fun _ => nofun, fun _ => nofun⟩
    absorbs.held.holder (fun _ => ?_) (fun off => ?_) fun _ => ?_
  · rw [answered, share]
    exact h.shared fronted.1
  · rw [s.threads_answered] at off
    exact absurd off (Nat.ne_of_gt on)
  · rw [answered, ← now]
    exact ⟨rfl, absorbs.held.events⟩

/-- **No step makes the profilers lose the tool's set.** -/
theorem step (h : Tracked own t) (step : Tenure.Step SetsEvents t t') : Tracked own t' := by
  cases step with
  | takes nobody installs =>
    have set := installs.wrappedEvents.trans (if_pos h.holder)
    refine h.move ?_ (fun _ => ⟨?_, installs.reclaimed⟩) (fun off => by cases off) fun _ => ?_
    · rw [installs.holder]
      rfl
    · show _ = false
      rw [installs.owned, Option.isNone_eq_false_iff]
      exact h.holder
    · rw [← h.alone nobody, ← set]
      exact ⟨rfl, installs.events⟩
  | counts n some given =>
    exact h.move h.holder (fun _ => h.shared some) (fun off => absurd off (Nat.ne_of_gt given))
      fun _ => h.knows some
  | @returns f s last restores =>
    have some : 0 < t.share.threads := last ▸ Nat.one_pos
    have off : s.threads = 0 := restores.threads
    have set : f.eventsOf Facility.profilerTool = followed own t.history :=
      restores.events.trans (h.knows some).1
    refine ⟨?_, fun on => absurd off (Nat.ne_of_gt on), fun _ => set,
      fun on => absurd off (Nat.ne_of_gt on), fun e earlier mem => ?_, fun l earlier mem => ?_⟩
    · rw [restores.holder]
      exact h.holder
    · rcases List.suffix_cons_iff.mp mem with same | mem
      · cases same
      · exact h.heard e earlier mem
    · rcases List.suffix_cons_iff.mp mem with same | mem
      · cases same
        exact set
      · exact h.left l earlier mem
  | frees last mine =>
    have shared := h.shared (last ▸ Nat.one_pos)
    rw [shared.1, shared.2] at mine
    rcases mine with mine | mine <;> cases mine
  | restarts =>
    exact h.further ⟨fun _ => nofun, fun _ => nofun⟩ h.holder h.shared
      h.alone h.knows
  | notices =>
    rw [ToolShare.noticed_eq]
    exact h.move h.holder h.shared h.alone h.knows
  | silences event there covered =>
    rw [Facility.answered_eq]
    exact h.move h.holder h.shared h.alone h.knows
  | skips event fronted there covered =>
    rw [ToolShare.answered_eq]
    exact h.move h.holder h.shared h.alone h.knows
  | calls thread script event acts action alone on there bare light allowed =>
    exact h.calls alone light allowed
  | passes thread script event acts action fronted seen held on next bare allowed absorbs =>
    exact h.passes fronted allowed absorbs
  | hears e facility share unguarded monitored place =>
    refine ⟨h.holder, h.shared, h.alone, h.knows, fun e' earlier mem on => ?_, fun l earlier mem => ?_⟩
    · rcases List.suffix_cons_iff.mp mem with same | mem
      · cases same
        rw [share] at on
        obtain ⟨known, widened⟩ := h.knows on
        rw [← share] at known
        rw [← facility] at widened
        exact subscribed unguarded monitored known widened
      · exact h.heard e' earlier mem on
    · rcases List.suffix_cons_iff.mp mem with same | mem
      · cases same
      · exact h.left l earlier mem

theorem start {f : Facility} (taken : (f.holder? Facility.profilerTool).isSome) :
    Tracked (f.eventsOf Facility.profilerTool) (firstTenure f) where
  holder := taken
  shared := nofun
  alone _ := rfl
  knows := nofun
  heard _ _ mem := by cases List.suffix_nil.mp mem
  left _ _ mem := by cases List.suffix_nil.mp mem

end Tracked

/-- **The event set of a wrapped tool is followed**, up to one ambiguity. A tool holds the profilers'
id, and its callbacks set the event set of the id as they like. After every event for which the
profilers listen, an event goes on to the tool's callback, unless its location is switched off, exactly
if its kind is in the set they take for the tool's, and the id has that set and their own kinds; and
whenever they listen no more, the id has exactly that set. It is the set that the tool installed last,
as long as no callback to which they passed an event installs, instead of another set, that set with
the profilers' kinds added: this they cannot tell from what they did themselves. -/
theorem event_sets_followed {τ : Type} (tool : Tool registry τ) (first : τ) (f : Facility)
    (held : HeldByTool f) (taken : (f.holder? Facility.profilerTool).isSome)
    (sets : Tool.Only SetsEvents tool) (wrap : Bool) (restarts : List Nat) (budget : Nat)
    (turns : List Turn) :
    let own := f.eventsOf Facility.profilerTool
    let history :=
      (playHeld tool budget turns ⟨startHeld f wrap first restarts, []⟩).state.history
    (∀ e earlier, .heard e :: earlier <:+ history → 0 < (e.share registry).threads →
      Subscribed e (followed own earlier)) ∧
    (∀ l earlier, .left l :: earlier <:+ history →
      l.eventsOf Facility.profilerTool = followed own earlier) ∧
    (¬ Blurred own history →
      ∀ earlier, earlier <:+ history → followed own earlier = installed own earlier) := by
  intro own history
  have steps : Tenure.Steps SetsEvents (firstTenure f) _ :=
    steps_playHeld sets budget turns ⟨startHeld f wrap first restarts, []⟩
      (tenable_start held wrap first restarts)
  have tracked : Tracked own _ := steps.keeps (fun step h => h.step step) (Tracked.start taken)
  exact ⟨tracked.heard, tracked.left, fun clear earlier suffix =>
    followed_eq fun blurred => clear (blurred.of_suffix suffix)⟩

/-- A tool that sets another event set each of the first three times it is called. -/
def fitful : Tool registry Nat := fun n _ _ _ =>
  { tampers := match n with
      | 0 => [.setEvents (.ofList [.line, .ret])]
      | 1 => [.setEvents {}, .setEvents (.ofList [.line, .yield, .start])]
      | 2 => [.setEvents (.ofList [.start])]
      | _ => []
    action := .goOn
    tool := n + 1 }

theorem only_fitful : Tool.Only SetsEvents fitful := by
  intro n _ _ _ a mem
  match n with
  | 0 | 1 | 2 => simp [fitful] at mem; rcases mem with rfl | rfl <;> exact ⟨_, rfl⟩
  | n + 3 => cases mem

/-- The tool is called three times, and left with the third set. -/
theorem event_sets_followed_fitful :
    HeldByTool listening ∧ Tool.Only SetsEvents fitful ∧
      ∃ f, (playHeld fitful 9 besideCourse ⟨startHeld listening true 0 [], []⟩).state.history.head?.bind
          Happening.left? = some f ∧
        f.eventsOf Facility.profilerTool = .ofList [.start] := by
  obtain ⟨-, left, same⟩ := event_sets_followed fitful 0 listening heldByTool_listening
    (by decide +kernel) only_fitful true [] 9 besideCourse
  have run : let history := (playHeld fitful 9 besideCourse ⟨startHeld listening true 0 [], []⟩).state.history
      ¬ Blurred (listening.eventsOf Facility.profilerTool) history ∧
        installed (listening.eventsOf Facility.profilerTool) history.tail = .ofList [.start] ∧
        (history.head?.bind Happening.left?).isSome := by decide +kernel
  refine ⟨heldByTool_listening, only_fitful, ?_⟩
  generalize (playHeld fitful 9 besideCourse ⟨startHeld listening true 0 [], []⟩).state.history =
    history at left same run ⊢
  obtain ⟨clear, last, ends⟩ := run
  match history, ends with
  | .left f :: earlier, _ =>
    refine ⟨f, rfl, ?_⟩
    rw [left f earlier (List.suffix_refl _), same clear earlier (List.suffix_cons _ _)]
    exact last

/-- A tool that subscribes to all the profilers' kinds when it is first called. -/
def widening : Tool registry Bool := fun widened _ _ _ =>
  { tampers := if widened then [] else [.setEvents ourEvents], action := .goOn, tool := true }

/-- The id is held by a tool with callbacks for lines and returns, that listens to lines. -/
def halfListening : Facility where
  holders := ⟨[(Facility.profilerTool, "other")]⟩
  events := ⟨[(Facility.profilerTool, .ofList [.line])]⟩
  callbacks := ⟨[((Facility.profilerTool, .line), .script 0), ((Facility.profilerTool, .ret), .script 0)]⟩

/-- Where a block returns. -/
def returning : MonitorEvent := { kind := .ret, block := default, offset := 0, line := 2 }

/-- Whether a return was heard of last, with the event set that of the profilers, while the profilers
knew of the callback and did not call it. -/
def overlooksCallback : List (Happening registry) → Bool
  | .heard e :: earlier =>
    decide (0 < (e.share registry).threads ∧ installed (.ofList [.line]) earlier = ourEvents ∧
      ((wrappedFor registry returning).run e).1 = none ∧
      (e.share registry).wrapped.get? .ret = some (.script 0) ∧
      returning.location ∉ (e.share registry).stillOff e.facility.restarts)
  | _ => false

/-- Whether the profilers left last, and put back lines alone in place of that set. -/
def overlooksSet : List (Happening registry) → Bool
  | .left f :: earlier =>
    decide (installed (.ofList [.line]) earlier = ourEvents ∧
      f.eventsOf Facility.profilerTool = .ofList [.line])
  | _ => false

/-- A tool that adds just the profilers' kinds to its event set is not heard: returns do not go on
to it, and once the profilers listen no more the id has the set of before. -/
theorem widened_set_overlooked :
    let history := (playHeld widening 9 besideCourse ⟨startHeld halfListening true false [], []⟩).state.history
    (∃ e earlier, .heard e :: earlier <:+ history ∧ 0 < (e.share registry).threads ∧
      installed (.ofList [.line]) earlier = ourEvents ∧
      ((wrappedFor registry returning).run e).1 = none ∧
      (e.share registry).wrapped.get? .ret = some (.script 0) ∧
      returning.location ∉ (e.share registry).stillOff e.facility.restarts) ∧
    (∃ f earlier, .left f :: earlier <:+ history ∧ installed (.ofList [.line]) earlier = ourEvents ∧
      f.eventsOf Facility.profilerTool = .ofList [.line]) := by
  intro history
  have found : (∃ rest ∈ history.tails, overlooksCallback rest = true) ∧
      ∃ rest ∈ history.tails, overlooksSet rest = true := by decide +kernel
  obtain ⟨⟨rest, within, unheard⟩, rest', within', unset⟩ := found
  constructor
  · unfold overlooksCallback at unheard
    split at unheard
    · rename_i e earlier
      exact ⟨e, earlier, (List.mem_tails _ _).mp within, of_decide_eq_true unheard⟩
    · cases unheard
  · unfold overlooksSet at unset
    split at unset
    · rename_i f earlier
      exact ⟨f, earlier, (List.mem_tails _ _).mp within', of_decide_eq_true unset⟩
    · cases unset

end LineClock.Course
