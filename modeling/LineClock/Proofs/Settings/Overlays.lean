import Mathlib
import LineClock.Settings.Load

/-!
# Which overlay decides a setting

Settings are overlaid with texts and with environments, one after the other. A text that cannot be
read changes nothing; in an environment the variables before the first that cannot be read are in
force. A setting has the value of the last overlay that put one in force. The widths of columns go
together: a text with a table of widths puts all of them in force, those that the table does not
mention with their defaults.

Main statement: `last_overlay_decides`.
-/

namespace LineClock.Settings

/-! ## Settings one by one -/

/-- A column of numbers in a report. -/
inductive Column where
  | line
  | hits
  | time
  | perHit
  | percent
  deriving DecidableEq, Repr

/-- The width of a column. -/
def Column.of (w : Widths) : Column → Nat
  | line => w.line
  | hits => w.hits
  | time => w.time
  | perHit => w.perHit
  | percent => w.percent

/-- The name of a column in a table of widths. -/
def Column.key : Column → String
  | line => "line"
  | hits => "hits"
  | time => "time"
  | perHit => "perhit"
  | percent => "percent"

/-- A setting. -/
inductive Key where
  | wrapTrace
  | backend
  | outputUnit
  | debug
  | width (column : Column)
  deriving DecidableEq, Repr

/-- The values of a setting. -/
abbrev Key.Value : Key → Type
  | wrapTrace | debug => Bool
  | backend => BackendChoice
  | outputUnit => Option Float
  | width _ => Nat

/-- The value of a setting. -/
def get (s : Settings) : (k : Key) → k.Value
  | .wrapTrace => s.wrapTrace
  | .backend => s.backend
  | .outputUnit => s.outputUnit
  | .debug => s.debug
  | .width column => column.of s.widths

/-! ## What a document mentions -/

/-- The value of a key in a section that takes some keys. -/
def valueAt? (keys : List String) (key : String) (v : Toml) : Option Toml :=
  (section? keys v).bind fun value => value key

/-- A key of the section of settings in a document. -/
def own? (document : Toml.Entries) (key : String) : Option Toml :=
  (Toml.lookup "lineprof" document).bind (valueAt? ["wrap_trace", "backend", "debug", "show"] key)

/-- A key of its section on reports. -/
def reports? (document : Toml.Entries) (key : String) : Option Toml :=
  (own? document "show").bind (valueAt? ["output_unit", "column_widths"] key)

/-- A key of the table of widths there. -/
def widthOf? (document : Toml.Entries) (key : String) : Option Toml :=
  (reports? document "column_widths").bind
    (valueAt? ["line", "hits", "time", "perhit", "percent"] key)

/-- The value that a document gives a setting, if it mentions the setting. -/
def mentioned? (document : Toml.Entries) : (k : Key) → Option k.Value
  | .wrapTrace => (own? document "wrap_trace").bind bool?
  | .backend => (own? document "backend").bind backend?
  | .outputUnit => (reports? document "output_unit").bind fun v => (number? v).map some
  | .debug => (own? document "debug").bind bool?
  | .width column => (widthOf? document column.key).bind width?

/-! ## Overlays -/

/-- What settings are overlaid with. -/
inductive Overlay where
  | text (content : String)
  | environment (env : Environment)

/-- The settings with an overlay on them, and whether that succeeded. -/
def Overlay.on (s : Settings) : Overlay → Settings × Bool
  | .text content =>
    match s.overlayText? content with
    | some s => (s, true)
    | none => (s, false)
  | .environment env =>
    let (s, error) := s.overlayEnvironment env
    (s, error.isNone)

/-- The settings with several overlays on them, one after the other. -/
def overlaid (s : Settings) (overlays : List Overlay) : Settings :=
  overlays.foldl (fun s o => (o.on s).1) s

/-- The value that an overlay gives a setting, if it mentions the setting. -/
def Overlay.tells : Overlay → (k : Key) → Option k.Value
  | .text content, k => (Toml.read? content).bind (mentioned? · k)
  | .environment env, .wrapTrace => (env "LINEPROF_WRAP_TRACE").bind flag?
  | .environment env, .backend =>
    (env "LINEPROF_CORE").bind fun word => (BackendChoice.ofWord word).toOption
  | .environment env, .debug => (env "LINEPROF_DEBUG").bind flag?
  | .environment _, .outputUnit | .environment _, .width _ => none

/-- Whether a variable that is set can be read. -/
def Variable.legible (env : Environment) (v : Variable) : Bool :=
  (env v.key).all fun value => (v.put? value {}).isSome

/-- Whether an overlay can be read as a whole. -/
def Overlay.legible : Overlay → Bool
  | .text content => (Layer.read? content).isSome
  | .environment env => allVariables.all (Variable.legible env)

/-- Whether a text has a table of widths. -/
def Overlay.hasWidths : Overlay → Bool
  | .text content => ((Toml.read? content).bind (reports? · "column_widths")).isSome
  | .environment _ => false

/-- The variable for a setting. -/
def Key.variable? : Key → Option String
  | .wrapTrace => some "LINEPROF_WRAP_TRACE"
  | .backend => some "LINEPROF_CORE"
  | .debug => some "LINEPROF_DEBUG"
  | .outputUnit | .width _ => none

/-- Whether a variable is the one for a setting. -/
def Key.owns (k : Key) (v : Variable) : Bool :=
  k.variable? == some v.key

/-- The variables that are read before the one for a setting. -/
def Key.before (k : Key) : List Variable :=
  allVariables.takeWhile (!k.owns ·)

/-- The value that an overlay puts in force. In an environment the variable for a setting counts if
those before it can be read. -/
def Overlay.puts : Overlay → (k : Key) → Option k.Value
  | o, .width column =>
    if o.legible && o.hasWidths then some ((o.tells (.width column)).getD (column.of {})) else none
  | .text content, k =>
    if (Overlay.text content).legible then (Overlay.text content).tells k else none
  | .environment env, k =>
    if k.before.all (Variable.legible env) then (Overlay.environment env).tells k else none

/-! ## Texts -/

/-- The value that a layer gives a setting. -/
def Layer.gives (layer : Layer) : (k : Key) → Option k.Value
  | .wrapTrace => layer.wrapTrace
  | .backend => layer.backend
  | .outputUnit => layer.outputUnit.map some
  | .debug => layer.debug
  | .width column => layer.widths.map column.of

theorem get_overlay (s : Settings) (layer : Layer) (k : Key) :
    (s.overlay layer).get k = (layer.gives k).getD (s.get k) := by
  cases k with
  | wrapTrace | backend | debug => rfl
  | outputUnit => cases h : layer.outputUnit <;> simp [get, overlay, Layer.gives, h]
  | width column => cases h : layer.widths <;> simp [get, overlay, Layer.gives, h]

/-- What is read where there is something to read. -/
theorem bind_of_mapM {α β : Type} {f : α → Option β} {o : Option α} {r : Option β}
    (h : o.mapM f = some r) : r = o.bind f := by
  cases o with
  | none => simpa using h.symm
  | some a =>
    cases found : f a <;> simp [found] at h
    simp [h, found]

theorem of_widths? {v : Toml} {w : Widths} (h : widths? v = some w) (column : Column) :
    column.of w =
      ((valueAt? ["line", "hits", "time", "perhit", "percent"] column.key v).bind width?).getD
        (column.of {}) := by
  simp only [widths?, Option.bind_eq_bind, Option.bind_eq_some_iff, Option.pure_def,
    Option.some.injEq] at h
  obtain ⟨value, section_, a, ⟨a', ha, rfl⟩, b, ⟨b', hb, rfl⟩, c, ⟨c', hc, rfl⟩, d, ⟨d', hd, rfl⟩,
    e, ⟨e', he, rfl⟩, rfl⟩ := h
  cases column <;> simp [Column.of, Column.key, valueAt?, section_, bind_of_mapM ha, bind_of_mapM hb,
    bind_of_mapM hc, bind_of_mapM hd, bind_of_mapM he]

/-- The layer of a document, key by key. -/
theorem Layer.of_ofEntries? {document : Toml.Entries} {layer : Layer}
    (h : Layer.ofEntries? document = some layer) :
    layer.wrapTrace = (own? document "wrap_trace").bind bool? ∧
      layer.backend = (own? document "backend").bind backend? ∧
      layer.debug = (own? document "debug").bind bool? ∧
      layer.outputUnit = (reports? document "output_unit").bind number? ∧
      (reports? document "column_widths").mapM widths? = some layer.widths := by
  unfold Layer.ofEntries? at h
  cases found : Toml.lookup "lineprof" document with
  | none =>
    simp only [found, Option.some.injEq] at h
    subst h
    simp [own?, reports?, found]
  | some v =>
    simp only [found, Layer.ofSection?, Option.bind_eq_bind, Option.bind_eq_some_iff] at h
    obtain ⟨value, section_, wrap, ha, backend, hb, debug, hc, rest⟩ := h
    have own : ∀ key, own? document key = value key := by
      intro key
      simp [own?, valueAt?, found, section_]
    cases shown : value "show" with
    | none =>
      simp only [shown, Option.pure_def, Option.some.injEq] at rest
      subst rest
      simp [own, reports?, shown, bind_of_mapM ha, bind_of_mapM hb, bind_of_mapM hc]
    | some reports =>
      simp only [shown, Layer.withReports, Option.bind_eq_bind, Option.bind_eq_some_iff,
        Option.pure_def, Option.some.injEq] at rest
      obtain ⟨value', section', unit, hd, widths, he, rfl⟩ := rest
      have shows : ∀ key, reports? document key = value' key := by
        intro key
        simp [reports?, own, shown, valueAt?, section']
      simp [own, shows, bind_of_mapM ha, bind_of_mapM hb, bind_of_mapM hc, bind_of_mapM hd, he]

/-- **A text that can be read gives what it mentions**, and all widths if it has a table of them. -/
theorem Layer.gives_of_read? {content : String} {layer : Layer}
    (h : Layer.read? content = some layer) (k : Key) :
    layer.gives k = (Overlay.text content).puts k := by
  have legible : (Overlay.text content).legible = true := by simp [Overlay.legible, h]
  obtain ⟨document, read, ofEntries⟩ := Option.bind_eq_some_iff.mp h
  obtain ⟨wrap, backend, debug, unit, widths⟩ := Layer.of_ofEntries? ofEntries
  cases k with
  | wrapTrace => simp [Layer.gives, Overlay.puts, Overlay.tells, legible, read, mentioned?, wrap]
  | backend => simp [Layer.gives, Overlay.puts, Overlay.tells, legible, read, mentioned?, backend]
  | debug => simp [Layer.gives, Overlay.puts, Overlay.tells, legible, read, mentioned?, debug]
  | outputUnit =>
    cases found : reports? document "output_unit" <;>
      simp [Layer.gives, Overlay.puts, Overlay.tells, legible, read, mentioned?, unit, found]
  | width column =>
    cases table : reports? document "column_widths" with
    | none =>
      have none_ : layer.widths = none := by simpa [table] using widths.symm
      simp [Layer.gives, Overlay.puts, Overlay.hasWidths, legible, read, table, none_]
    | some v =>
      obtain ⟨w, read', same⟩ : ∃ w, widths? v = some w ∧ layer.widths = some w := by
        cases found : widths? v <;> simp [table, found] at widths
        exact ⟨_, rfl, widths.symm⟩
      simp [Layer.gives, Overlay.puts, Overlay.tells, Overlay.hasWidths, legible, read, table, same,
        mentioned?, widthOf?, of_widths? read' column]

/-! ## Environments -/

namespace Variable

variable {env : Environment} {v : Variable} {vs : List Variable}

/-- The settings with a variable on them, if it is set and can be read. -/
def put (env : Environment) (s : Settings) (v : Variable) : Settings :=
  ((env v.key).bind (v.put? · s)).getD s

/-- Whether a value can be read does not depend on the settings. -/
def Steady (v : Variable) : Prop :=
  ∀ value s, (v.put? value s).isSome = (v.put? value {}).isSome

theorem steady_allVariables : ∀ v ∈ allVariables, v.Steady := by
  simp [allVariables, Steady]

/-- **Variables one after the other**: those before the first that cannot be read are in force, and it
is the one that is reported. -/
theorem overlayVariables_eq (steady : ∀ v ∈ vs, v.Steady) (s : Settings) :
    overlayVariables env vs s = ((vs.takeWhile (legible env)).foldl (put env) s,
      (vs.find? (!legible env ·)).map fun v => .invalidValue v.key ((env v.key).getD "")) := by
  induction vs generalizing s with
  | nil => rfl
  | cons v rest ih =>
    have later := ih fun w mem => steady w (List.mem_cons_of_mem v mem)
    cases value : env v.key with
    | none =>
      have reads : legible env v = true := by simp [legible, value]
      have same : put env s v = s := by simp [put, value]
      simp [overlayVariables, value, later, reads, same]
    | some word =>
      have same := steady v List.mem_cons_self word s
      cases read : v.put? word s with
      | none =>
        have fails : legible env v = false := by
          rw [read] at same
          simpa [legible, value] using same.symm
        simp [overlayVariables, value, read, fails]
      | some s' =>
        have reads : legible env v = true := by
          rw [read] at same
          simpa [legible, value] using same.symm
        have puts : put env s v = s' := by simp [put, value, read]
        simp [overlayVariables, value, read, later, reads, puts]

variable {k : Key}

/-- A variable decides its own setting. -/
theorem get_put (mem : v ∈ allVariables) (s : Settings) (k : Key) :
    (put env s v).get k =
      (if k.owns v then (Overlay.environment env).tells k else none).getD (s.get k) := by
  simp only [allVariables, List.mem_cons, List.not_mem_nil, or_false] at mem
  rcases mem with rfl | rfl | rfl
  · cases value : env "LINEPROF_WRAP_TRACE" with
    | none => cases k <;> simp [put, Key.owns, Key.variable?, Overlay.tells, value, get]
    | some word =>
      cases read : flag? word <;> cases k <;>
        simp [put, Key.owns, Key.variable?, Overlay.tells, value, read, get]
  · cases value : env "LINEPROF_CORE" with
    | none => cases k <;> simp [put, Key.owns, Key.variable?, Overlay.tells, value, get]
    | some word =>
      cases read : (BackendChoice.ofWord word).toOption <;> cases k <;>
        simp [put, Key.owns, Key.variable?, Overlay.tells, value, read, get]
  · cases value : env "LINEPROF_DEBUG" with
    | none => cases k <;> simp [put, Key.owns, Key.variable?, Overlay.tells, value, get]
    | some word =>
      cases read : flag? word <;> cases k <;>
        simp [put, Key.owns, Key.variable?, Overlay.tells, value, read, get]

/-- A variable that cannot be read says nothing. -/
theorem tells_of_not_legible (mem : v ∈ allVariables) (own : k.owns v) (fails : ¬ legible env v) :
    (Overlay.environment env).tells k = none := by
  simp only [allVariables, List.mem_cons, List.not_mem_nil, or_false] at mem
  rcases mem with rfl | rfl | rfl <;> cases k <;> simp [Key.owns, Key.variable?] at own
  · cases value : env "LINEPROF_WRAP_TRACE" <;> simp [legible, value] at fails
    simp [Overlay.tells, value, fails]
  · cases value : env "LINEPROF_CORE" <;> simp [legible, value] at fails
    simp [Overlay.tells, value, fails]
  · cases value : env "LINEPROF_DEBUG" <;> simp [legible, value] at fails
    simp [Overlay.tells, value, fails]

/-- The variables that can be read, as far as the first that cannot, give a setting what the
environment says if the variables before its own can be read. -/
theorem get_foldl_put (mem : ∀ v ∈ vs, v ∈ allVariables) (s : Settings) (k : Key) :
    ((vs.takeWhile (legible env)).foldl (put env) s).get k =
      (if vs.any k.owns ∧ (vs.takeWhile (!k.owns ·)).all (legible env) then
        (Overlay.environment env).tells k else none).getD (s.get k) := by
  induction vs generalizing s with
  | nil => simp
  | cons v rest ih =>
    have mine : v ∈ allVariables := mem v List.mem_cons_self
    have later := ih fun w mem' => mem w (List.mem_cons_of_mem v mem')
    by_cases reads : legible env v = true <;> by_cases own : k.owns v = true
    · rw [List.takeWhile_cons_of_pos reads, List.foldl_cons, later, get_put mine]
      cases (Overlay.environment env).tells k <;> simp [own]
      split <;> rfl
    · simp [reads, own, later, get_put mine]
    · simp [reads, own, tells_of_not_legible mine own reads]
    · simp [reads, own]

end Variable

/-- What the environment puts in force. -/
theorem get_overlayEnvironment (s : Settings) (env : Environment) (k : Key) :
    (s.overlayEnvironment env).1.get k =
      ((Overlay.environment env).puts k).getD (s.get k) := by
  simp only [overlayEnvironment, Variable.overlayVariables_eq Variable.steady_allVariables,
    Variable.get_foldl_put fun v mem => mem]
  cases k with
  | wrapTrace | backend | debug =>
    simp [allVariables, Key.owns, Key.variable?, Overlay.puts, Key.before]
  | outputUnit => simp [Overlay.puts, Overlay.tells]
  | width column => simp [Key.owns, Key.variable?, Overlay.puts, Overlay.hasWidths]

/-! ## Overlays one after the other -/

namespace Overlay

/-- **One overlay**: a setting has the value put in force, or keeps its own. -/
theorem get_on (o : Overlay) (s : Settings) (k : Key) :
    (o.on s).1.get k = (o.puts k).getD (s.get k) := by
  cases o with
  | text content =>
    cases read : Layer.read? content with
    | none => cases k <;> simp [on, overlayText?, puts, legible, read]
    | some layer => simp [on, overlayText?, read, get_overlay, Layer.gives_of_read? read]
  | environment env => exact get_overlayEnvironment s env k

/-- An overlay succeeds if it can be read as a whole. -/
theorem succeeds_iff (o : Overlay) (s : Settings) : (o.on s).2 = true ↔ o.legible = true := by
  cases o with
  | text content => cases read : Layer.read? content <;> simp [on, overlayText?, legible, read]
  | environment env =>
    simp [on, overlayEnvironment, Variable.overlayVariables_eq Variable.steady_allVariables, legible]

/-- A text that cannot be read changes nothing. -/
theorem on_text_of_not_legible {content : String} (fails : ¬ (text content).legible)
    (s : Settings) : ((text content).on s).1 = s := by
  have unread : Layer.read? content = none := by simpa [legible] using fails
  simp [on, overlayText?, unread]

/-- Widths are mentioned in a table of widths. -/
theorem hasWidths_of_tells {content : String} {column : Column}
    (h : ((text content).tells (.width column)).isSome) : (text content).hasWidths = true := by
  simp only [tells, Option.isSome_iff_exists, Option.bind_eq_some_iff] at h
  obtain ⟨w, document, read, mentions⟩ := h
  simp only [mentioned?, widthOf?, Option.bind_eq_some_iff] at mentions
  obtain ⟨-, ⟨table, found, -⟩, -⟩ := mentions
  simp [hasWidths, read, found]

end Overlay

/-- **Overlays one after the other**: the last that put a value in force decides. -/
theorem get_overlaid (s : Settings) (overlays : List Overlay) (k : Key) :
    (overlaid s overlays).get k = (overlays.reverse.findSome? (·.puts k)).getD (s.get k) := by
  induction overlays generalizing s with
  | nil => rfl
  | cons o rest ih =>
    have step : overlaid s (o :: rest) = overlaid (o.on s).1 rest := rfl
    rw [step, ih, Overlay.get_on, List.reverse_cons, List.findSome?_append]
    cases rest.reverse.findSome? (·.puts k) <;> simp

/-! ## Setting by setting -/

/-- Whether an overlay treats a setting on its own: a table of widths mentions the column, and an
environment that fails does not get to the setting, or says nothing of it. -/
def Overlay.plain : Overlay → Key → Bool
  | .text content, .width column =>
    !(Overlay.text content).hasWidths || ((Overlay.text content).tells (.width column)).isSome
  | .text _, _ => true
  | .environment env, k =>
    (Overlay.environment env).legible || !k.before.all (Variable.legible env) ||
      ((Overlay.environment env).tells k).isNone

theorem Overlay.puts_of_plain {o : Overlay} {k : Key} (plain : o.plain k) :
    o.puts k = if o.legible then o.tells k else none := by
  cases o with
  | text content =>
    cases k with
    | wrapTrace | backend | outputUnit | debug => rfl
    | width column =>
      cases said : (text content).tells (.width column) with
      | none =>
        have no_table : (text content).hasWidths = false := by simpa [Overlay.plain, said] using plain
        simp [puts, no_table]
      | some w =>
        have table := hasWidths_of_tells (Option.isSome_of_eq_some said)
        simp [puts, table, said]
  | environment env =>
    have same : (environment env).puts k =
        if k.before.all (Variable.legible env) then (environment env).tells k else none := by
      cases k with
      | wrapTrace | backend | outputUnit | debug => rfl
      | width column => simp [puts, tells, hasWidths]
    rw [same]
    by_cases reads : (environment env).legible
    · have earlier : k.before.all (Variable.legible env) = true := by
        simp only [legible, List.all_eq_true] at reads ⊢
        exact fun v mem => reads v ((List.takeWhile_prefix _).mem mem)
      simp [reads, earlier]
    · cases said : (environment env).tells k with
      | none => simp
      | some value =>
        have later : k.before.all (Variable.legible env) = false := by
          simpa [Overlay.plain, reads, said] using plain
        simp [reads, later]

/-- Searches that agree on the members of a list find the same. -/
theorem findSome?_congr {α β : Type} {f g : α → Option β} {l : List α} (same : ∀ a ∈ l, f a = g a) :
    l.findSome? f = l.findSome? g := by
  induction l with
  | nil => rfl
  | cons a rest ih =>
    rw [List.findSome?_cons, List.findSome?_cons, same a List.mem_cons_self,
      ih fun b mem => same b (List.mem_cons_of_mem a mem)]

/-- **The last overlay that puts a setting in force decides it**, or the default if none does. Where
each overlay treats the setting on its own, that is the last overlay that succeeds and mentions the
setting, and one that fails leaves it as it was. A text that fails changes nothing at all. -/
theorem last_overlay_decides (overlays : List Overlay) (k : Key) :
    (overlaid {} overlays).get k = (overlays.reverse.findSome? (·.puts k)).getD (get {} k) ∧
      ((∀ o ∈ overlays, o.plain k) →
        (overlaid {} overlays).get k =
          (overlays.reverse.findSome? fun o => if o.legible then o.tells k else none).getD
            (get {} k)) ∧
      (∀ o s, ((Overlay.on s o).2 = true ↔ o.legible) ∧
        (¬ o.legible → o.plain k → (o.on s).1.get k = s.get k)) ∧
      ∀ content s, ¬ (Overlay.text content).legible → ((Overlay.text content).on s).1 = s := by
  have law := get_overlaid {} overlays k
  refine ⟨law, ?keyed, ?fails, fun content s fails => Overlay.on_text_of_not_legible fails s⟩
  case keyed =>
    intro plain
    have same : ∀ o ∈ overlays.reverse, o.puts k = if o.legible then o.tells k else none :=
      fun o mem => Overlay.puts_of_plain (plain o (List.mem_reverse.mp mem))
    rw [law, findSome?_congr same]
  case fails =>
    intro o s
    refine ⟨o.succeeds_iff s, fun fails plain => ?_⟩
    simp [o.get_on, Overlay.puts_of_plain plain, fails]

/-! A text with one width, an environment that fails at its second variable, and texts with another
width and with a key that is unknown. -/

/-- A text with the width of one column. -/
def hitsText : String := "[lineprof.show.column_widths]\nhits = 12\n"

/-- A text with the width of another column. -/
def lineText : String := "[lineprof.show.column_widths]\nline = 7\n"

/-- An environment whose second variable cannot be read. -/
def quantumCore : Environment := fun key =>
  if key = "LINEPROF_WRAP_TRACE" then some "1"
  else if key = "LINEPROF_CORE" then some "quantum" else none

theorem read?_hitsText : Toml.read? hitsText =
    some [("lineprof", .table .passed [("show", .table .passed
      [("column_widths", .table .headed [("hits", .whole 12)])])])] := by
  cbv

theorem read?_lineText : Toml.read? lineText =
    some [("lineprof", .table .passed [("show", .table .passed
      [("column_widths", .table .headed [("line", .whole 7)])])])] := by
  cbv

theorem layer_hitsText : Layer.read? hitsText = some { widths := some { hits := 12 } } := by
  rw [Layer.read?, read?_hitsText]
  rfl

theorem layer_lineText : Layer.read? lineText = some { widths := some { line := 7 } } := by
  rw [Layer.read?, read?_lineText]
  rfl

/-- What the texts say of the second column. -/
theorem tells_texts :
    (Overlay.text hitsText).tells (.width .hits) = some (12 : Nat) ∧
      (Overlay.text lineText).tells (.width .hits) = none := by
  simp only [Overlay.tells, read?_hitsText, read?_lineText]
  exact ⟨rfl, rfl⟩

theorem last_overlay_decides_hits :
    (∀ o ∈ [.text hitsText, .environment quantumCore], Overlay.plain o (.width .hits)) ∧
      (overlaid {} [.text hitsText, .environment quantumCore]).get (.width .hits) = (12 : Nat) := by
  have reads : (Overlay.text hitsText).legible = true := by simp [Overlay.legible, layer_hitsText]
  have silent : (Overlay.environment quantumCore).tells (.width .hits) = none := rfl
  have plain : ∀ o ∈ [.text hitsText, .environment quantumCore],
      Overlay.plain o (.width .hits) := by
    simp [Overlay.plain, tells_texts, silent]
  refine ⟨plain, ((last_overlay_decides _ (.width .hits)).2.1 plain).trans ?_⟩
  simp [reads, tells_texts, silent]

/-- Overlays are not taken key by key: a table with another column resets this one, and the variables
before the one at which an environment fails stay in force. -/
theorem overlays_not_keyed :
    ([.text hitsText, .text lineText].map Overlay.legible = [true, true] ∧
      [.text hitsText, .text lineText].map (Overlay.tells · (.width .hits)) = [some (12 : Nat), none] ∧
      (overlaid {} [.text hitsText, .text lineText]).get (.width .hits) = (9 : Nat)) ∧
    ((Overlay.environment quantumCore).on {}).2 = false ∧
      get {} .wrapTrace = false ∧
      ((Overlay.environment quantumCore).on {}).1.get .wrapTrace = true := by
  refine ⟨⟨?_, ?_, ?_⟩, ?_⟩
  · simp [Overlay.legible, layer_hitsText, layer_lineText]
  · simp [tells_texts]
  · simp [overlaid, Overlay.on, overlayText?, layer_hitsText, layer_lineText, overlay, get, Column.of]
  · decide +kernel

end LineClock.Settings
