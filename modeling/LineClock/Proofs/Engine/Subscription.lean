import LineClock.Proofs.Engine.Idling
import LineClock.Proofs.Engine.Taking

/-!
# What the table of tool ids tells of its history

Tools claim ids and let them go, register callbacks and subscribe, and answer the events they hear of,
in any order and from within the callbacks of other events. Who holds an id, what it subscribes to, which
callbacks it has and what is off for it is read from the history: each is what the last operation on it
left. An answer that switches a location off counts until the next restart or until the id is let go,
also if the id has changed hands since the event began to which it was given.

Main statements: `History.tells`, `History.held`, `History.off_iff`, `History.holder_of_offByHolder` and
`History.mem_targets`.
-/

namespace LineClock.Facility

/-! ## What happens at the table -/

/-- An operation on the table of tool ids. -/
inductive Operation where
  | claim (tool : ToolId) (name : String)
  | free (tool : ToolId)
  | register (tool : ToolId) (kind : EventKind) (hook : Option ToolHook)
  | setEvents (tool : ToolId) (events : EventSet)
  | restart
  deriving DecidableEq

/-- The table after an operation, if it is not refused. -/
def Operation.act (f : Facility) : Operation → Except HostError Facility
  | .claim tool name => f.claim tool name
  | .free tool => .ok (f.free tool)
  | .register tool kind hook => (f.register tool kind hook).map Prod.snd
  | .setEvents tool events => f.setEvents tool events
  | .restart => .ok f.restart

/-- What the callback of a tool answered to an event. -/
structure Answer where
  tool : ToolId
  /-- How often the id had been let go when the event began. -/
  tenure : Nat
  event : MonitorEvent
  out : Except HookError MonitorAction

/-- What happens at the table. -/
inductive Happening where
  | did (o : Operation)
  | answered (a : Answer)

/-- The table after an answer. -/
def settle (f : Facility) (a : Answer) : Facility :=
  match a.out with
  | .error _ => f.silence a.tool
  | .ok action =>
    if action = .disable ∧ a.event.kind.canDisable then f.disable a.tool a.event.location else f

/-! ## Reading a history

Histories are lists of what happened, newest first. -/

/-- Who holds an id. -/
def holder (tool : ToolId) : List Happening → Option String
  | [] => none
  | .did (.claim t name) :: log => if t = tool then some name else holder tool log
  | .did (.free t) :: log => if t = tool then none else holder tool log
  | _ :: log => holder tool log

/-- Which kinds of events an id subscribes to. A callback that fails ends the subscription. -/
def subscribed (tool : ToolId) : List Happening → EventSet
  | [] => .empty
  | .did (.setEvents t events) :: log => if t = tool then events else subscribed tool log
  | .did (.free t) :: log => if t = tool then .empty else subscribed tool log
  | .answered ⟨t, _, _, .error _⟩ :: log => if t = tool then .empty else subscribed tool log
  | _ :: log => subscribed tool log

/-- The callback of an id for a kind of event. -/
def registered (tool : ToolId) (kind : EventKind) : List Happening → Option ToolHook
  | [] => none
  | .did (.register t k hook) :: log =>
    if t = tool ∧ k = kind then hook else registered tool kind log
  | .did (.free t) :: log => if t = tool then none else registered tool kind log
  | _ :: log => registered tool kind log

/-- An id is let go. -/
def Happening.frees (tool : ToolId) : Happening → Bool
  | .did (.free t) => t = tool
  | _ => false

/-- How often an id was let go. -/
def releases (tool : ToolId) (log : List Happening) : Nat := log.countP (·.frees tool)

/-- Something happened, and since then nothing that ends it. -/
def Since (starts ends : Happening → Prop) (log : List Happening) : Prop :=
  ∃ later h earlier, log = later ++ h :: earlier ∧ starts h ∧ ∀ x ∈ later, ¬ ends x

/-- A callback of an id asked to hear of a location no more. -/
def Answer.SwitchesOff (a : Answer) (tool : ToolId) (location : Location) : Prop :=
  a.tool = tool ∧ a.event.location = location ∧ a.out = .ok .disable ∧
    location.kind.canDisable = true

/-- A location is off for an id: some callback of it asked for that, and since then the facility was not
restarted and the id not let go. -/
def Off (tool : ToolId) (location : Location) : List Happening → Prop :=
  Since (fun h => ∃ a, h = .answered a ∧ a.SwitchesOff tool location)
    fun h => h = .did .restart ∨ h.frees tool = true

/-- A location is off for an id at the wish of its holder: the callback that asked for that was told of
an event that had begun after the id was last let go. -/
def OffByHolder (tool : ToolId) (location : Location) (log : List Happening) : Prop :=
  Since (fun h => ∃ a, h = .answered a ∧ a.SwitchesOff tool location ∧ a.tenure = releases tool log)
    (· = .did .restart) log

/-- An id subscribes to an event and has a callback for it. -/
structure Subscribes (log : List Happening) (event : MonitorEvent) (tool : ToolId) (hook : ToolHook) :
    Prop where
  events : (subscribed tool log).contains event.kind = true
  callback : registered tool event.kind log = some hook

theorem Subscribes.some {log : List Happening} {event : MonitorEvent} {tool : ToolId} {hook : ToolHook}
    (h : Subscribes log event tool hook) : subscribed tool log ≠ .empty := by
  intro none
  have there := h.events
  rw [none, EventSet.contains_empty] at there
  cases there

/-- The table of tool ids after a history of operations and answers. Each answer comes from an id that
subscribed to the event when that began, with the event's location not off for it. -/
inductive History : Facility → List Happening → Prop
  | start : History {} []
  | did {f f' : Facility} {log : List Happening} (o : Operation) (before : History f log)
      (done : o.act f = .ok f') : History f' (.did o :: log)
  | answered {f : Facility} {log began : List Happening} (a : Answer) {hook : ToolHook}
      (before : History f log) (past : began <:+ log) (subscribes : Subscribes began a.event a.tool hook)
      (on : ¬ Off a.tool a.event.location began) (tenure : a.tenure = releases a.tool began) :
      History (f.settle a) (.answered a :: log)

section

variable {tool t : ToolId} {log : List Happening}

theorem holder_claim (name : String) : holder tool (.did (.claim t name) :: log) =
    if t = tool then some name else holder tool log := rfl

theorem holder_free : holder tool (.did (.free t) :: log) =
    if t = tool then none else holder tool log := rfl

theorem subscribed_setEvents (events : EventSet) : subscribed tool (.did (.setEvents t events) :: log) =
    if t = tool then events else subscribed tool log := rfl

theorem subscribed_free : subscribed tool (.did (.free t) :: log) =
    if t = tool then .empty else subscribed tool log := rfl

theorem subscribed_failed (tenure : Nat) (event : MonitorEvent) (err : HookError) :
    subscribed tool (.answered ⟨t, tenure, event, .error err⟩ :: log) =
      if t = tool then .empty else subscribed tool log := rfl

theorem registered_register (kind k : EventKind) (hook : Option ToolHook) :
    registered tool kind (.did (.register t k hook) :: log) =
      if t = tool ∧ k = kind then hook else registered tool kind log := rfl

theorem registered_free (kind : EventKind) : registered tool kind (.did (.free t) :: log) =
    if t = tool then none else registered tool kind log := rfl

theorem releases_free : releases tool (.did (.free t) :: log) =
    releases tool log + if t = tool then 1 else 0 := by
  unfold releases
  rw [List.countP_cons]
  simp [Happening.frees]

theorem releases_mono {began : List Happening} (past : began <:+ log) :
    releases tool began ≤ releases tool log := past.sublist.countP_le

end

/-! ## Since when -/

section Since

variable {starts ends : Happening → Prop} {h : Happening} {log : List Happening}

theorem not_since_nil : ¬ Since starts ends [] := by
  rintro ⟨later, h, earlier, whole, -⟩
  cases later <;> cases whole

theorem since_cons : Since starts ends (h :: log) ↔ starts h ∨ ¬ ends h ∧ Since starts ends log := by
  constructor
  · rintro ⟨later, h', earlier, whole, began, lasts⟩
    cases later with
    | nil =>
      cases whole
      exact .inl began
    | cons x later =>
      cases whole
      exact .inr ⟨lasts _ List.mem_cons_self, later, h', earlier, rfl, began,
        fun x mem => lasts x (List.mem_cons_of_mem _ mem)⟩
  · rintro (began | ⟨lasts, later, h', earlier, rfl, began, later'⟩)
    · exact ⟨[], h, log, rfl, began, fun x mem => by cases mem⟩
    · exact ⟨h :: later, h', earlier, rfl, began, List.forall_mem_cons.mpr ⟨lasts, later'⟩⟩

end Since

variable {f f' : Facility} {tool : ToolId} {kind : EventKind} {location : Location}
  {log began : List Happening}

theorem off_did (o : Operation) : Off tool location (.did o :: log) ↔
    o ≠ .restart ∧ o ≠ .free tool ∧ Off tool location log := by
  have ends : (Happening.did o = .did .restart ∨ (Happening.did o).frees tool = true) ↔
      o = .restart ∨ o = .free tool := by
    cases o <;> simp [Happening.frees]
  unfold Off
  rw [since_cons, ends, not_or, and_assoc]
  refine or_iff_right ?_
  rintro ⟨_, ⟨⟩, -⟩

theorem off_did_other {o : Operation} (restarts : o ≠ .restart) (frees : o ≠ .free tool) :
    Off tool location (.did o :: log) ↔ Off tool location log := by
  rw [off_did, and_iff_right restarts, and_iff_right frees]

theorem off_answered (a : Answer) : Off tool location (.answered a :: log) ↔
    a.SwitchesOff tool location ∨ Off tool location log := by
  have lasts : ¬ (Happening.answered a = .did .restart ∨ (Happening.answered a).frees tool = true) := by
    simp [Happening.frees]
  unfold Off
  rw [since_cons, and_iff_right lasts]
  refine or_congr_left ⟨?_, fun off => ⟨a, rfl, off⟩⟩
  rintro ⟨_, ⟨⟩, off⟩
  exact off

/-! ## The table tells its history -/

/-- A callback, or none, is registered. -/
theorem of_register {hook found : Option ToolHook}
    (done : f.register tool kind hook = .ok (found, f')) :
    f' = { f with callbacks := f'.callbacks } ∧ ∀ tool' kind', f'.callback? tool' kind' =
      if tool = tool' ∧ kind = kind' then hook else f.callback? tool' kind' := by
  unfold register at done
  revert done
  cases check tool with
  | error err => nofun
  | ok _ =>
    rintro ⟨⟩
    refine ⟨rfl, fun tool' kind' => ?_⟩
    by_cases here : tool = tool' ∧ kind = kind'
    · obtain ⟨rfl, rfl⟩ := here
      rw [if_pos ⟨rfl, rfl⟩]
      cases hook with
      | some hook => exact Assoc.get?_set_self _ _ _
      | none => exact (Assoc.get?_erase _ _ _).trans (if_pos rfl)
    · rw [if_neg here]
      have differ : (tool, kind) ≠ (tool', kind') := by
        rintro ⟨⟩
        exact here ⟨rfl, rfl⟩
      cases hook with
      | some hook => exact Assoc.get?_set_ne _ _ differ
      | none => exact (Assoc.get?_erase _ _ _).trans (if_neg differ)

theorem mem_toolIds : tool ∈ toolIds ↔ tool.toNat < toolCount := by
  unfold toolIds
  rw [List.mem_map]
  constructor
  · rintro ⟨n, mem, rfl⟩
    have small := List.mem_range.mp mem
    exact Nat.lt_of_le_of_lt (Nat.mod_le n _) small
  · exact fun small => ⟨tool.toNat, List.mem_range.mpr small, UInt8.ofNat_toNat⟩

/-- Only the holder of an id in the table can subscribe. -/
theorem of_setEvents_ok {events : EventSet} (done : f.setEvents tool events = .ok f') :
    tool.toNat < toolCount ∧ (f.holder? tool).isSome := by
  unfold setEvents check at done
  revert done
  split
  · rename_i inside
    cases held : f.holder? tool with
    | none => nofun
    | some name => exact fun _ => ⟨inside, rfl⟩
  · nofun

/-- Who claims an id finds it free. -/
theorem of_claim_ok {name : String} (done : f.claim tool name = .ok f') : f.holder? tool = none := by
  unfold claim at done
  revert done
  cases check tool with
  | error err => nofun
  | ok _ =>
    cases f.holder? tool with
    | none => exact fun _ => rfl
    | some holder => nofun

/-- What is read from the table is what is read from a history. -/
structure Tells (f : Facility) (log : List Happening) : Prop where
  holder : ∀ tool, f.holder? tool = holder tool log
  events : ∀ tool, f.eventsOf tool = subscribed tool log
  callbacks : ∀ tool kind, f.callback? tool kind = registered tool kind log
  disabled : ∀ tool location, f.isDisabled tool location = true ↔ Off tool location log

/-- **One operation.** -/
theorem Tells.did (h : Tells f log) {o : Operation} (done : o.act f = .ok f') :
    Tells f' (.did o :: log) := by
  cases o with
  | claim t name =>
    cases of_claim done
    refine ⟨fun tool => ?_, h.events, h.callbacks, fun tool location => ?_⟩
    · rw [holder_claim, ← h.holder]
      exact Assoc.get?_set _ _ _ _
    · rw [off_did_other (by simp) (by simp)]
      exact h.disabled tool location
  | free t =>
    cases done
    refine ⟨fun tool => ?_, fun tool => ?_, fun tool kind => ?_, fun tool location => ?_⟩
    · rw [holder_free, ← h.holder]
      exact Assoc.get?_erase _ _ _
    · rw [subscribed_free, ← h.events]
      show ((f.events.erase t).get? tool).getD .empty = _
      rw [Assoc.get?_erase]
      split <;> rfl
    · rw [registered_free, ← h.callbacks, callback?_free]
      simp only [eq_comm]
    · rw [off_did, and_iff_right (by simp), isDisabled_iff, ← h.disabled, isDisabled_iff]
      show (tool, location) ∈ f.disabled.filter (fun d => d.1 ≠ t) ↔ _
      rw [List.mem_filter, decide_eq_true_eq, and_comm, ne_eq, ne_eq, Operation.free.injEq, eq_comm]
  | register t k hook =>
    obtain ⟨⟨found, f''⟩, put, rfl⟩ := of_map_ok done
    obtain ⟨same, read⟩ := of_register put
    rw [same]
    refine ⟨h.holder, h.events, fun tool kind => ?_, fun tool location => ?_⟩
    · rw [registered_register, ← h.callbacks]
      exact read tool kind
    · rw [off_did_other (by simp) (by simp)]
      exact h.disabled tool location
  | setEvents t events =>
    cases of_setEvents done
    refine ⟨h.holder, fun tool => ?_, h.callbacks, fun tool location => ?_⟩
    · rw [subscribed_setEvents, ← h.events]
      exact Assoc.getD_set _ _ _ _ _
    · rw [off_did_other (by simp) (by simp)]
      exact h.disabled tool location
  | restart =>
    cases done
    refine ⟨h.holder, h.events, h.callbacks, fun tool location => ?_⟩
    rw [off_did, isDisabled_iff]
    exact ⟨fun off => absurd off List.not_mem_nil, fun off => absurd rfl off.1⟩

/-- **One answer.** -/
theorem Tells.answered (h : Tells f log) (a : Answer) : Tells (f.settle a) (.answered a :: log) := by
  obtain ⟨t, tenure, event, out⟩ := a
  unfold settle
  rcases out with err | action
  · -- The callback failed.
    refine ⟨h.holder, fun tool => ?_, h.callbacks, fun tool location => ?_⟩
    · rw [subscribed_failed, ← h.events]
      exact Assoc.getD_set _ _ _ _ _
    · rw [off_answered, or_iff_right fun off => nomatch off.2.2.1]
      exact h.disabled tool location
  · dsimp only
    split
    · rename_i switches
      obtain ⟨rfl, can⟩ := switches
      have same := f.disable_eq t event.location
      refine ⟨fun tool => ?_, fun tool => ?_, fun tool kind => ?_, fun tool location => ?_⟩
      · rw [same]
        exact h.holder tool
      · rw [same]
        exact h.events tool
      · rw [same]
        exact h.callbacks tool kind
      · rw [off_answered, isDisabled_disable, h.disabled]
        refine or_congr_left ⟨?_, fun off => ⟨off.1, off.2.1⟩⟩
        rintro ⟨rfl, rfl⟩
        exact ⟨rfl, rfl, rfl, can⟩
    · rename_i stays
      refine ⟨h.holder, h.events, h.callbacks, fun tool location => ?_⟩
      rw [off_answered, or_iff_right ?_, h.disabled]
      rintro ⟨-, rfl, same, can⟩
      exact stays ⟨Except.ok.inj same, can⟩

namespace History

/-- **A table tells its history.** -/
theorem tells (h : History f log) : Tells f log := by
  induction h with
  | start =>
    exact ⟨fun _ => rfl, fun _ => rfl, fun _ _ => rfl,
      fun _ _ => ⟨nofun, fun off => absurd off not_since_nil⟩⟩
  | did o _ done ih => exact ih.did done
  | answered a _ _ _ _ _ ih => exact ih.answered a

/-- **Who subscribes to anything holds an id.** -/
theorem held (h : History f log) (some : subscribed tool log ≠ .empty) :
    (holder tool log).isSome ∧ tool ∈ toolIds := by
  induction h with
  | start => exact absurd rfl some
  | @did f f' log o before done ih =>
    cases o with
    | claim t name =>
      refine ⟨?_, (ih some).2⟩
      rw [holder_claim]
      split
      · rfl
      · exact (ih some).1
    | free t =>
      rw [subscribed_free] at some
      rw [holder_free]
      split at some
      · exact absurd rfl some
      · rename_i other
        rw [if_neg other]
        exact ih some
    | register t k hook => exact ih some
    | setEvents t events =>
      rw [subscribed_setEvents] at some
      split at some
      · rename_i here
        obtain ⟨inside, held⟩ := of_setEvents_ok (here ▸ done)
        exact ⟨before.tells.holder tool ▸ held, mem_toolIds.mpr inside⟩
      · exact ih some
    | restart => exact ih some
  | answered a _ _ _ _ _ ih =>
    obtain ⟨t, tenure, event, err | action⟩ := a
    · rw [subscribed_failed] at some
      split at some
      · exact absurd rfl some
      · exact ih some
    · exact ih some

/-- Whatever is past was a history. -/
theorem before (h : History f log) (past : began <:+ log) : ∃ g, History g began := by
  induction h with
  | start =>
    rw [List.suffix_nil.mp past]
    exact ⟨_, .start⟩
  | did o before done ih =>
    rcases List.suffix_cons_iff.mp past with rfl | past
    · exact ⟨_, before.did o done⟩
    · exact ih past
  | answered a before began subscribes on tenure ih =>
    rcases List.suffix_cons_iff.mp past with rfl | past
    · exact ⟨_, before.answered a began subscribes on tenure⟩
    · exact ih past

/-- An answer is from an id that subscribed to its event when that began. -/
theorem origin (h : History f log) {a : Answer} {earlier : List Happening}
    (there : .answered a :: earlier <:+ log) : ∃ began hook, began <:+ earlier ∧
      Subscribes began a.event a.tool hook ∧ a.tenure = releases a.tool began := by
  induction h with
  | start => cases List.suffix_nil.mp there
  | did o _ _ ih =>
    rcases List.suffix_cons_iff.mp there with same | there
    · cases same
    · exact ih there
  | answered b _ past subscribes _ tenure ih =>
    rcases List.suffix_cons_iff.mp there with same | there
    · cases same
      exact ⟨_, _, past, subscribes, tenure⟩
    · exact ih there

/-- **Who holds an id** held it as long as it was not let go. -/
theorem same_holder (h : History f log) (past : began <:+ log) (held : (holder tool began).isSome)
    (same : releases tool log = releases tool began) : holder tool log = holder tool began := by
  induction h with
  | start => rw [List.suffix_nil.mp past]
  | @did f f' log o before done ih =>
    rcases List.suffix_cons_iff.mp past with rfl | inside
    · rfl
    · have still := ih inside
      cases o with
      | claim t name =>
        rw [holder_claim]
        split
        · -- Who claims an id finds it free.
          rename_i here
          have vacant := of_claim_ok (here ▸ done)
          rw [before.tells.holder, still same] at vacant
          rw [vacant] at held
          cases held
        · exact still same
      | free t =>
        have fewer : releases tool began ≤ releases tool log := releases_mono inside
        rw [releases_free] at same
        rw [holder_free]
        split
        · rename_i here
          rw [if_pos here] at same
          omega
        · rename_i other
          rw [if_neg other] at same
          exact still same
      | register | setEvents | restart => exact still same
  | answered a _ _ _ _ _ ih =>
    rcases List.suffix_cons_iff.mp past with rfl | inside
    · rfl
    · exact ih inside same

end History

/-! ## Whose wish it is -/

/-- Who wants a location off held the id when the event began, and holds it still. -/
theorem History.holder_of_offByHolder (h : History f log) (off : OffByHolder tool location log) :
    ∃ later a earlier began hook, log = later ++ .answered a :: earlier ∧
      a.SwitchesOff tool location ∧ began <:+ earlier ∧ Subscribes began a.event tool hook ∧
      (holder tool began).isSome ∧ holder tool log = holder tool began := by
  obtain ⟨later, _, earlier, rfl, ⟨a, rfl, switches, mine⟩, -⟩ := off
  obtain ⟨began, hook, past, subscribes, tenure⟩ := h.origin (List.suffix_append later _)
  rw [switches.1] at subscribes tenure
  have past' : began <:+ later ++ .answered a :: earlier :=
    past.trans ((List.suffix_cons _ earlier).trans (List.suffix_append later _))
  obtain ⟨g, history⟩ := h.before past'
  have held := (history.held subscribes.some).1
  exact ⟨later, a, earlier, began, hook, rfl, switches, past, subscribes, held,
    h.same_holder past' held (mine.symm.trans tenure)⟩

/-! ## Who hears of an event -/

/-- **Whom an event is delivered to** is read from the history. -/
theorem History.mem_targets (h : History f log) {event : MonitorEvent} {hook : ToolHook} :
    (tool, hook) ∈ f.targets event ↔
      Subscribes log event tool hook ∧ ¬ Off tool event.location log := by
  have tells := h.tells
  unfold targets
  rw [List.mem_filterMap]
  constructor
  · rintro ⟨t, -, found⟩
    split at found
    · rename_i hears
      obtain ⟨_, there, ⟨⟩⟩ := Option.map_eq_some_iff.mp found
      exact ⟨⟨tells.events tool ▸ hears.1, tells.callbacks tool _ ▸ there⟩,
        fun off => hears.2 ((tells.disabled tool _).mpr off)⟩
    · cases found
  · rintro ⟨⟨subscribed, registered⟩, on⟩
    refine ⟨tool, (h.held (Subscribes.some ⟨subscribed, registered⟩)).2, ?_⟩
    rw [if_pos ⟨tells.events tool ▸ subscribed, fun off => on ((tells.disabled tool _).mp off)⟩,
      tells.callbacks, registered]
    rfl

end LineClock.Facility
