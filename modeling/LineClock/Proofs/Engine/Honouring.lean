import LineClock.Proofs.Engine.Mirror
import LineClock.Proofs.Engine.Tenure
import Mathlib.Data.List.Infix

/-!
# Locations that stay off

A tool that holds the profilers' id answers that it wants to hear of a location no more. The machine
keeps that, where it called the tool itself; where profilers passed the event on, they keep it while
they listen, and leave a layer over the tool's callback when they go. What happens at the id does not
undo this, up to two things: a restart by the callback that gives the answer, and another callback that
is registered where the layer was left.

Main statements: `Tenure.Honours.step` and `uncover_dropped`.
-/

namespace LineClock

open Machine Engine

variable {τ : Type} {registry : RegistryId}

/-! ## What switches on and off -/

/-- An operation that switches every location on again. -/
def Tamper.lifts : Tamper registry → Bool
  | .restart | .free => true
  | _ => false

/-- An operation that registers a callback for a kind. -/
def Tamper.renews (kind : EventKind) : Tamper registry → Bool
  | .register kind' _ => kind' = kind
  | _ => false

namespace Happening

/-- Every location is switched on again: the facility is restarted, or the id is let go. -/
def Lifts : Happening registry → Prop
  | .called _ _ _ _ acts _ => ∃ a ∈ acts, a.lifts = true
  | .heard _ => False
  | .left f => f.holder? Facility.profilerTool = none
  | .restarted => True

instance : (happening : Happening registry) → Decidable happening.Lifts
  | .called _ _ _ _ acts _ => inferInstanceAs (Decidable (∃ a ∈ acts, a.lifts = true))
  | .heard _ => inferInstanceAs (Decidable False)
  | .left f => inferInstanceAs (Decidable (f.holder? Facility.profilerTool = none))
  | .restarted => inferInstanceAs (Decidable True)

/-- A callback registers another for a kind. -/
def Renews (kind : EventKind) : Happening registry → Prop
  | .called _ _ _ _ acts _ => ∃ a ∈ acts, a.renews kind = true
  | _ => False

/-- A callback is called at a location. -/
def At (location : Location) : Happening registry → Prop
  | .called _ _ event _ _ _ => event.location = location
  | _ => False

instance (location : Location) : (happening : Happening registry) → Decidable (happening.At location)
  | .called _ _ event _ _ _ => inferInstanceAs (Decidable (event.location = location))
  | .heard _ | .left _ | .restarted => inferInstanceAs (Decidable False)

/-- A callback answers that a location is to be switched off. One to which profilers passed the event
has not restarted the facility before. -/
def SwitchesOff (location : Location) : Happening registry → Prop
  | .called _ _ event passed acts action => event.location = location ∧
    (action = .disable ∧ event.kind.canDisable = true) ∧
      (passed = true → ∀ a ∈ acts, a.isRestart = false)
  | _ => False

instance (location : Location) :
    (happening : Happening registry) → Decidable (happening.SwitchesOff location)
  | .called _ _ event passed acts action => inferInstanceAs (Decidable (event.location = location ∧
      (action = .disable ∧ event.kind.canDisable = true) ∧
        (passed = true → ∀ a ∈ acts, a.isRestart = false)))
  | .heard _ | .left _ | .restarted => inferInstanceAs (Decidable False)

end Happening

/-- A callback for a kind was registered after the profilers had left. -/
def Renewed (kind : EventKind) : List (Happening registry) → Prop
  | [] => False
  | happening :: earlier =>
    (happening.Renews kind ∧ ∃ f, .left f ∈ earlier) ∨ Renewed kind earlier

namespace Tamper

variable {f : Facility} {ts : List (Tamper registry)}

/-- What is no restart does not restart. -/
theorem restarts_all (none : ∀ t ∈ ts, t.isRestart = false) : (all f ts).restarts = f.restarts := by
  induction ts generalizing f with
  | nil => rfl
  | cons t rest ih =>
    refine (ih (f := t.apply f) fun t mem => none t (List.mem_cons_of_mem _ mem)).trans ?_
    have here := none t List.mem_cons_self
    unfold apply
    cases t with
    | register | free => rfl
    | setEvents events =>
      rw [act_setEvents]
      cases (f.holder? Facility.profilerTool).isNone <;> rfl
    | claim name =>
      rw [act_claim]
      cases (f.holder? Facility.profilerTool).isSome <;> rfl
    | restart => cases here

theorem isRestart_of_lasting {t : Tamper registry} (lasts : ¬ t.lifts = true) : t.isRestart = false := by
  cases t with
  | restart => exact absurd rfl lasts
  | _ => rfl

theorem restarts_lasting (lasting : ∀ t ∈ ts, ¬ t.lifts = true) : (all f ts).restarts = f.restarts :=
  restarts_all fun t mem => isRestart_of_lasting (lasting t mem)

/-- Operations that lift nothing switch nothing on, and an id that is held stays so. -/
theorem all_lasting (lasting : ∀ t ∈ ts, ¬ t.lifts = true) :
    (all f ts).disabled = f.disabled ∧ ((f.holder? Facility.profilerTool).isSome →
      ((all f ts).holder? Facility.profilerTool).isSome) := by
  induction ts generalizing f with
  | nil => exact ⟨rfl, id⟩
  | cons t rest ih =>
    obtain ⟨disabled, holder⟩ := ih (f := t.apply f) fun t mem =>
      lasting t (List.mem_cons_of_mem _ mem)
    have here : (t.apply f).disabled = f.disabled ∧ ((f.holder? Facility.profilerTool).isSome →
        ((t.apply f).holder? Facility.profilerTool).isSome) := by
      unfold apply
      cases t with
      | register kind hook => exact ⟨rfl, id⟩
      | setEvents events =>
        rw [act_setEvents]
        cases (f.holder? Facility.profilerTool).isNone <;> exact ⟨rfl, id⟩
      | claim name =>
        rw [act_claim]
        cases held : (f.holder? Facility.profilerTool).isSome
        · exact ⟨rfl, fun there => by cases there⟩
        · exact ⟨rfl, fun _ => held⟩
      | free | restart => exact absurd rfl (lasting _ List.mem_cons_self)
    exact ⟨disabled.trans here.1, fun held => holder (here.2 held)⟩

/-- Operations that neither let the id go nor register for a kind leave the callback for it. -/
theorem callback?_all {kind : EventKind} (lasting : ∀ t ∈ ts, ¬ t.lifts = true)
    (kept : ∀ t ∈ ts, ¬ t.renews kind = true) :
    (all f ts).callback? Facility.profilerTool kind = f.callback? Facility.profilerTool kind := by
  induction ts generalizing f with
  | nil => rfl
  | cons t rest ih =>
    refine (ih (f := t.apply f) (fun t mem => lasting t (List.mem_cons_of_mem _ mem))
      fun t mem => kept t (List.mem_cons_of_mem _ mem)).trans ?_
    have lasting := lasting t List.mem_cons_self
    have kept := kept t List.mem_cons_self
    unfold apply
    cases t with
    | register kind' hook =>
      have other : ¬ kind = kind' := fun same => kept (decide_eq_true same.symm)
      show (f.withCallback kind' (hook.map Subtype.val)).callback? _ kind = _
      rw [Facility.callback?_withCallback, if_neg fun h => other h.2]
    | setEvents events =>
      rw [act_setEvents]
      cases (f.holder? Facility.profilerTool).isNone <;> rfl
    | claim name =>
      rw [act_claim]
      cases (f.holder? Facility.profilerTool).isSome <;> rfl
    | free | restart => exact absurd rfl lasting

end Tamper

/-! ## Locations that are off -/

namespace Tenure

variable {t t' : Tenure registry} {location : Location}

/-- A location is off, whatever callback stands there. -/
def Firm (t : Tenure registry) (location : Location) : Prop :=
  t.facility.isDisabled Facility.profilerTool location = true ∨
    (Fronted t.share location.kind ∧ location ∈ t.share.stillOff t.facility.restarts)

/-- No callback is called at a location as things stand. -/
def Hushed (t : Tenure registry) (location : Location) : Prop :=
  Firm t location ∨ ∀ hook, t.share.tenant t.facility location.kind = some hook →
    hook.covers t.facility.restarts location = true

theorem tenant_fronted {f : Facility} {s : ToolShare} {kind : EventKind} (h : Fronted s kind) :
    s.tenant f kind = s.wrapped.get? kind := if_pos h

theorem tenant_alone {f : Facility} {s : ToolShare} {kind : EventKind} (h : ¬ Fronted s kind) :
    s.tenant f kind = f.callback? Facility.profilerTool kind := if_neg h

/-- Everything that a tool switched off is off, and has been. -/
structure Honours (t : Tenure registry) : Prop where
  answers : ∀ later answer earlier location, t.history = later ++ answer :: earlier →
    answer.SwitchesOff location → (∀ h ∈ later, ¬ h.Lifts) →
    ((∀ f, .left f ∉ later) → Firm t location) ∧
      (¬ Renewed location.kind later → Hushed t location)
  calls : ∀ call later answer earlier location, call :: (later ++ answer :: earlier) <:+ t.history →
    call.At location → answer.SwitchesOff location →
    (∃ h ∈ later, h.Lifts) ∨ Renewed location.kind later

namespace Honours

/-- Nothing is added to the history. -/
theorem move (h : Honours t) (same : t'.history = t.history)
    (firm : ∀ location, Firm t location → Firm t' location)
    (hushed : ∀ location, Hushed t location → Hushed t' location) : Honours t' := by
  refine ⟨fun later answer earlier location whole off none => ?_, fun call later answer earlier
    location suffix => h.calls call later answer earlier location (same ▸ suffix)⟩
  obtain ⟨firm', hushed'⟩ := h.answers later answer earlier location (same ▸ whole) off none
  exact ⟨fun stays => firm _ (firm' stays), fun old => hushed _ (hushed' old)⟩

/-- Something happens that does not break it. -/
theorem further (h : Honours t) {new : Happening registry} (whole : t'.history = new :: t.history)
    (firm : ¬ new.Lifts → (∀ f, new ≠ .left f) → ∀ location, Firm t location → Firm t' location)
    (hushed : ¬ new.Lifts → ∀ location, ¬ new.Renews location.kind → Hushed t location →
      Hushed t' location)
    (off : ∀ location, new.SwitchesOff location → Firm t' location)
    (on : ∀ location, new.At location → ¬ Hushed t location) : Honours t' := by
  refine ⟨fun later answer earlier location split switches none => ?_, fun call later answer earlier
    location suffix there switches => ?_⟩
  · rw [whole] at split
    cases later with
    | nil =>
      cases split
      exact ⟨fun _ => off location switches, fun _ => .inl (off location switches)⟩
    | cons first later =>
      obtain ⟨rfl, past⟩ := List.cons.inj split
      have lasts := none _ List.mem_cons_self
      obtain ⟨firm', hushed'⟩ := h.answers later answer earlier location past switches
        fun h mem => none h (List.mem_cons_of_mem _ mem)
      refine ⟨fun stays => firm lasts (fun f same => stays f (same ▸ List.mem_cons_self)) location
        (firm' fun f mem => stays f (List.mem_cons_of_mem _ mem)), fun old => ?_⟩
      by_cases left : ∃ f, .left f ∈ later
      · exact hushed lasts location (fun renews => old (.inl ⟨renews, left⟩))
          (hushed' fun renewed => old (.inr renewed))
      · have firmly := firm' fun f mem => left ⟨f, mem⟩
        cases new with
        | left f => exact hushed lasts location id (.inl firmly)
        | called | heard | restarted => exact .inl (firm lasts (fun _ => nofun) location firmly)
  · rw [whole] at suffix
    rcases List.suffix_cons_iff.mp suffix with same | suffix
    · obtain ⟨rfl, split⟩ := List.cons.inj same
      refine Classical.byContradiction fun neither => on location there ?_
      rw [not_or] at neither
      exact (h.answers later answer earlier location split.symm switches fun h mem lifts =>
        neither.1 ⟨h, mem, lifts⟩).2 neither.2
    · exact h.calls call later answer earlier location suffix there switches

/-- Profilers begin to listen. -/
theorem takes (h : Honours t) {f : Facility} {s : ToolShare} (nobody : t.share.threads = 0)
    (installs : Installs registry t.facility t.share f s) :
    Honours { t with facility := f, share := { s with threads := 1 } } := by
  have alone : ∀ kind, ¬ Fronted t.share kind := fun kind on => absurd nobody (Nat.ne_of_gt on.1)
  have firm : ∀ location, Firm t location →
      Firm { t with facility := f, share := { s with threads := 1 } } location := by
    rintro location (native | ⟨fronted, -⟩)
    · exact .inl (t.facility.isDisabled_congr installs.disabled location ▸ native)
    · exact absurd fronted (alone _)
  have tenant : ∀ kind, ({ s with threads := 1 } : ToolShare).tenant f kind =
      t.share.tenant t.facility kind := by
    intro kind
    rw [tenant_alone (alone kind)]
    by_cases ours : kind ∈ ourKinds
    · rw [tenant_fronted ⟨Nat.one_pos, ours⟩]
      exact (installs.wrapped kind).trans (if_pos ours)
    · rw [tenant_alone fun on => ours on.2, installs.others _ _ fun here => ours here.2]
  refine h.move rfl firm fun location => Or.imp (firm location) fun covered hook there => ?_
  rw [tenant] at there
  show hook.covers f.restarts location = true
  rw [installs.restarts]
  exact covered hook there

/-- The id is given back, with layers where locations are off. -/
theorem returns (h : Honours t) {f : Facility} {s : ToolShare} (last : t.share.threads = 1)
    (restores : Restores registry t.facility { t.share with threads := 0 } f s) :
    Honours ⟨f, s, .left f :: t.history⟩ := by
  have on : 0 < t.share.threads := last ▸ Nat.one_pos
  have gone : s.threads = 0 := restores.threads
  have tenant : ∀ kind, s.tenant f kind =
      if kind ∈ ourKinds then (t.share.tenant t.facility kind).map
        (restored registry kind · (t.share.stillOff t.facility.restarts) t.facility.restarts)
      else t.share.tenant t.facility kind := by
    intro kind
    rw [tenant_alone fun on => absurd gone (Nat.ne_of_gt on.1), restores.callbacks]
    by_cases ours : kind ∈ ourKinds
    · rw [if_pos ⟨rfl, ours⟩, if_pos ours, tenant_fronted ⟨on, ours⟩]
      rfl
    · rw [if_neg fun here => ours here.2, if_neg ours, tenant_alone fun fronted => ours fronted.2]
  refine h.further rfl (fun _ other => absurd rfl (other f)) (fun _ location _ hushed => ?_)
    (fun _ => False.elim) fun _ => False.elim
  by_cases native : t.facility.isDisabled Facility.profilerTool location = true
  · exact .inl (.inl (t.facility.isDisabled_congr restores.disabled location ▸ native))
  refine .inr fun hook there => ?_
  show hook.covers f.restarts location = true
  rw [restores.restarts]
  rw [tenant] at there
  by_cases ours : location.kind ∈ ourKinds
  · rw [if_pos ours] at there
    obtain ⟨wrapped, known, rfl⟩ := Option.map_eq_some_iff.mp there
    rw [covers_restored location rfl, Bool.or_eq_true, List.contains_iff_mem]
    rcases hushed with (off | ⟨-, off⟩) | covered
    · exact absurd off native
    · exact .inl off
    · exact .inr (covered wrapped known)
  · rw [if_neg ours] at there
    rcases hushed with (off | ⟨fronted, -⟩) | covered
    · exact absurd off native
    · exact absurd fronted.2 ours
    · exact covered hook there

/-- The tool itself is called. -/
theorem called (h : Honours t) {hook : ToolHook} {thread : ThreadKey} {script : ScriptId}
    {event : MonitorEvent} {acts : List (Tamper registry)} {action : MonitorAction}
    (alone : ¬ Fronted t.share event.kind)
    (on : ¬ t.facility.isDisabled Facility.profilerTool event.location = true)
    (there : t.facility.callback? Facility.profilerTool event.kind = some hook)
    (bare : hook.covers t.facility.restarts event.location = false) :
    Honours ⟨(Tamper.all t.facility acts).answered event action, t.share,
      .called thread script event false acts action :: t.history⟩ := by
  generalize hf : (Tamper.all t.facility acts).answered event action = f
  have answered := (Tamper.all t.facility acts).answered_eq event action
  have disabled := (Tamper.all t.facility acts).isDisabled_answered event action
  rw [hf] at answered disabled
  have restarts : f.restarts = (Tamper.all t.facility acts).restarts := by rw [answered]
  have callbacks : ∀ kind, f.callback? Facility.profilerTool kind =
      (Tamper.all t.facility acts).callback? Facility.profilerTool kind := by
    intro kind
    rw [answered]
    rfl
  have firm : (∀ a ∈ acts, ¬ a.lifts = true) → ∀ location, Firm t location →
      Firm ⟨f, t.share, .called thread script event false acts action :: t.history⟩ location := by
    intro lasting location
    have same := (Tamper.all_lasting (f := t.facility) lasting).1
    rintro (native | fronted)
    · exact .inl ((disabled location).mpr (.inl (t.facility.isDisabled_congr same location ▸ native)))
    · refine .inr ⟨fronted.1, ?_⟩
      show location ∈ t.share.stillOff f.restarts
      rw [restarts, Tamper.restarts_lasting lasting]
      exact fronted.2
  refine h.further rfl (fun still _ => firm fun a mem lifts => still ⟨a, mem, lifts⟩)
    (fun still location old => ?_) (fun location off => ?_) fun location here => ?_
  · have lasting : ∀ a ∈ acts, ¬ a.lifts = true := fun a mem lifts => still ⟨a, mem, lifts⟩
    refine Or.imp (firm lasting location) fun covered hook there => ?_
    have same : f.callback? Facility.profilerTool location.kind = _ := (callbacks location.kind).trans
      (Tamper.callback?_all lasting fun a mem renews => old ⟨a, mem, renews⟩)
    show hook.covers f.restarts location = true
    rw [restarts, Tamper.restarts_lasting lasting]
    refine covered hook ?_
    have there : t.share.tenant f location.kind = some hook := there
    unfold ToolShare.tenant at there ⊢
    rw [← same]
    exact there
  · exact .inl ((disabled location).mpr (.inr ⟨off.2.1, off.1.symm⟩))
  · cases here
    rintro ((native | fronted) | covered)
    · exact on native
    · exact alone fronted.1
    · cases bare.symm.trans (covered hook ((tenant_alone alone).trans there))

section

variable {event : MonitorEvent} {acts : List (Tamper registry)} {action : MonitorAction} {f : Facility}
  {s : ToolShare} (fronted : Fronted t.share event.kind)
  (seen : t.share.seenRestart = t.facility.restarts)
  (absorbs : Absorbs registry (Tamper.all t.facility acts) t.share f s)

include absorbs

theorem threads_passed : (s.answered event action).threads = t.share.threads :=
  (s.threads_answered event action).trans absorbs.threads

include seen in
/-- What the profilers keep switched off, if the callback did not restart the facility. -/
theorem mem_stillOff_passed
    (since : (Tamper.all t.facility acts).restarts = t.facility.restarts) (location : Location) :
    location ∈ (s.answered event action).stillOff f.restarts ↔
      location ∈ t.share.stillOff t.facility.restarts ∨
        (action = .disable ∧ event.kind.canDisable = true) ∧ location = event.location := by
  have now : (s.answered event action).seenRestart = f.restarts := by
    rw [s.answered_eq, absorbs.restarts, since]
    exact absorbs.seen.trans seen
  rw [ToolShare.stillOff_of_seen now, ToolShare.stillOff_of_seen seen, s.mem_answered, absorbs.off]

include seen in
/-- What was off stays off, if the callback lifted nothing. -/
theorem firm_passed {history : List (Happening registry)} (lasting : ∀ a ∈ acts, ¬ a.lifts = true)
    (location : Location) (off : Firm t location) : Firm ⟨f, s.answered event action, history⟩ location := by
  have same := (Tamper.all_lasting (f := t.facility) lasting).1
  have threads : (s.answered event action).threads = t.share.threads := threads_passed absorbs
  rcases off with native | ⟨on, kept⟩
  · exact .inl (t.facility.isDisabled_congr (absorbs.disabled.trans same) location ▸ native)
  · exact .inr ⟨⟨threads ▸ on.1, on.2⟩,
      (mem_stillOff_passed seen absorbs (Tamper.restarts_lasting lasting) location).mpr (.inl kept)⟩

include fronted in
/-- The callbacks that stood there stand there still, but for what the callback registered. -/
theorem tenant_passed (held : t.facility.Held registry t.share)
    (lasting : ∀ a ∈ acts, ¬ a.lifts = true) {kind : EventKind}
    (kept : ∀ a ∈ acts, ¬ a.renews kind = true) :
    (s.answered event action).tenant f kind = t.share.tenant t.facility kind := by
  have same := Tamper.callback?_all (f := t.facility) lasting kept
  have holder := (Tamper.all_lasting (f := t.facility) lasting).2 held.holder
  have threads : (s.answered event action).threads = t.share.threads := threads_passed absorbs
  by_cases ours : kind ∈ ourKinds
  · -- the callback found there is the profilers' own
    obtain ⟨serial, mine, known⟩ := held.ours kind ours
    have unchanged := absorbs.wrapped kind
    rw [if_neg fun other => other.2 (same.trans (mine.trans known.symm)), since_held holder] at unchanged
    rw [tenant_fronted ⟨threads ▸ fronted.1, ours⟩, s.answered_eq, tenant_fronted ⟨fronted.1, ours⟩]
    exact unchanged
  · rw [tenant_alone fun on => ours on.2, absorbs.others _ _ fun here => ours here.2, same,
      tenant_alone fun on => ours on.2]

include fronted seen in
/-- The profilers pass an event on to the tool. -/
theorem passed (h : Honours t) {hook : ToolHook} {thread : ThreadKey} {script : ScriptId}
    (held : t.facility.Held registry t.share)
    (on : ¬ t.facility.isDisabled Facility.profilerTool event.location = true)
    (next : t.share.next? event = some hook)
    (bare : hook.covers t.facility.restarts event.location = false) :
    Honours ⟨f, s.answered event action, .called thread script event true acts action :: t.history⟩ := by
  have threads : (s.answered event action).threads = t.share.threads := threads_passed absorbs
  refine h.further rfl
    (fun still _ => firm_passed seen absorbs fun a mem lifts => still ⟨a, mem, lifts⟩)
    (fun still location old => ?_) (fun location off => ?_) fun location here => ?_
  · have lasting : ∀ a ∈ acts, ¬ a.lifts = true := fun a mem lifts => still ⟨a, mem, lifts⟩
    refine Or.imp (firm_passed seen absorbs lasting location) fun covered hook there => ?_
    show hook.covers f.restarts location = true
    rw [absorbs.restarts, Tamper.restarts_lasting lasting]
    refine covered hook (Eq.trans ?_ there)
    exact (tenant_passed fronted absorbs held lasting fun a mem renews => old ⟨a, mem, renews⟩).symm
  · obtain ⟨rfl, off, still⟩ := off
    exact .inr ⟨⟨threads ▸ fronted.1, fronted.2⟩,
      (mem_stillOff_passed seen absorbs (Tamper.restarts_all (still rfl)) _).mpr (.inr ⟨off, rfl⟩)⟩
  · cases here
    rintro ((native | ⟨-, off⟩) | covered)
    · exact on native
    · rw [ToolShare.stillOff_of_seen seen] at off
      exact (ToolShare.heard_of_next? next).2 off
    · have there : t.share.tenant t.facility event.kind = some hook :=
        (tenant_fronted fronted).trans (ToolShare.wrapped_of_next? next)
      cases bare.symm.trans (covered hook there)

end

/-- **What is switched off stays off**, whatever happens. -/
theorem step {may : Tamper registry → Prop} (h : Honours t) (step : Step may t t') : Honours t' := by
  cases step with
  | takes nobody installs => exact h.takes nobody installs
  | counts n some given =>
    have fronted : ∀ kind, Fronted { t.share with threads := n } kind ↔ Fronted t.share kind :=
      fun kind => ⟨fun on => ⟨some, on.2⟩, fun on => ⟨given, on.2⟩⟩
    refine h.move rfl (fun location => Or.imp_right fun off => ⟨(fronted _).mpr off.1, off.2⟩)
      fun location => Or.imp (Or.imp_right fun off => ⟨(fronted _).mpr off.1, off.2⟩)
        fun covered hook there => covered hook ?_
    rw [← there]
    exact if_congr (fronted _).symm rfl rfl
  | returns last restores => exact h.returns last restores
  | frees last own =>
    exact h.further rfl (fun lasts => absurd (Facility.holder?_free _) lasts)
      (fun lasts => absurd (Facility.holder?_free _) lasts) (fun _ => False.elim) fun _ => False.elim
  | restarts =>
    exact h.further rfl (fun lasts => absurd trivial lasts) (fun lasts => absurd trivial lasts)
      (fun _ => False.elim) fun _ => False.elim
  | notices =>
    have firm : ∀ location, Firm t location →
        Firm { t with share := t.share.noticed t.facility.restarts } location := by
      intro location
      refine Or.imp_right fun off => ?_
      rw [← t.share.stillOff_noticed] at off
      rw [ToolShare.noticed_eq] at off ⊢
      exact off
    refine h.move rfl firm fun location => Or.imp (firm location) fun covered hook there =>
      covered hook ?_
    rw [← there, ToolShare.noticed_eq]
    rfl
  | silences event there covered =>
    have firm : ∀ location, Firm t location →
        Firm { t with facility := t.facility.answered event .disable } location := by
      rintro location (native | off)
      · exact .inl ((t.facility.isDisabled_answered event .disable location).mpr (.inl native))
      · rw [Facility.answered_eq]
        exact .inr off
    refine h.move rfl firm fun location => Or.imp (firm location) fun covered hook there => ?_
    rw [Facility.answered_eq] at there ⊢
    exact covered hook there
  | skips event fronted there covered =>
    have firm : ∀ location, Firm t location →
        Firm { t with share := t.share.answered event .disable } location := by
      intro location
      refine Or.imp_right fun off => ⟨?_, ?_⟩
      · rw [ToolShare.answered_eq]
        exact off.1
      · exact t.share.stillOff_answered event .disable off.2
    refine h.move rfl firm fun location => Or.imp (firm location) fun covered hook there =>
      covered hook ?_
    rw [← there, ToolShare.answered_eq]
    rfl
  | calls thread script event acts action alone on there bare light allowed =>
    exact h.called alone on there bare
  | passes thread script event acts action fronted seen held on next bare allowed absorbs =>
    exact h.passed fronted seen absorbs held on next bare
  | hears e facility share unguarded monitored place =>
    exact h.further rfl (fun _ _ _ => id) (fun _ _ _ => id) (fun _ => False.elim) fun _ => False.elim

theorem start (f : Facility) : Honours (⟨f, {}, []⟩ : Tenure registry) where
  answers _ _ _ _ none := by cases List.append_eq_nil_iff.mp none.symm |>.2
  calls _ _ _ _ _ suffix := by cases List.suffix_nil.mp suffix

end Honours

end Tenure

namespace Engine

/-- Once a registry is dropped, its layers answer no more: a callback is called wherever its tool had
switched a location off while the profilers listened. -/
theorem uncover_dropped {e : Engine} (dropped : e.isAttached registry = false) (event : MonitorEvent)
    {hook : ToolHook} (within : hook.Within registry) :
    (uncover event hook).run e = (some hook.core, e) := by
  induction hook with
  | script | profiler => rfl
  | replay wrapped locations version owner ih =>
    obtain ⟨rfl, inside⟩ := within
    have silent : (replays owner locations version event).run e = (false, e) := by
      unfold replays
      rw [run_state_get_bind, dropped]
      rfl
    unfold uncover
    rw [run_state_bind silent]
    exact ih inside

end Engine

end LineClock
