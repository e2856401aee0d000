import Backplane.CommandLine.Parse
import Backplane.Proofs.Lists

/-!
# The bus that a command line names

What is given within a scope is taken in piece by piece. What holds of it and is kept by every piece that the
scope offers holds of all that was given in the end, also where the scope leads on to another one. The bus is
such a thing: it is taken once, and nothing behind it gives another one.

* `Stable`: what every piece keeps, and `Holds`: what is so far known of it.
* `Holds.take`: one argument, and `Holds.read`: all arguments up to the end.
* `bus?_of_parse`: the bus behind `--bus` is that of the command.
-/
namespace Backplane.CommandLine

/-- An argument with a value that may be given within a scope. -/
def Scope.Offers (scope : Scope) (v : Valued) : Prop := .valued v ∈ scope.options ∨ v ∈ scope.positionals

instance (scope : Scope) (v : Valued) : Decidable (scope.Offers v) := inferInstanceAs (Decidable (_ ∨ _))

/-- What every argument keeps that may be given within a scope. -/
structure Stable (scope : Scope) (P : Given → Prop) : Prop where
  put : ∀ g v text g', scope.Offers v → P g → g.put v text = .ok g' → P g'
  mark : ∀ g f g', P g → g.mark scope f = .ok g' → P g'

/-- The property holds of what was given so far, as soon as the argument is taken in that is pending. -/
structure Holds (scope : Scope) (P : Given → Prop) (s : State) : Prop where
  idle : s.pending = none → P s.given
  awaiting : ∀ v, s.pending = some (v, none) → scope.Offers v ∧ P s.given
  valued : ∀ v text, s.pending = some (v, some text) → ∀ g, s.given.put v text = .ok g → P g
  positionals : ∀ v ∈ s.positionals, v ∈ scope.positionals

variable {scope : Scope} {P : Given → Prop} {s t : State} {v : Valued} {text : String}

namespace Holds

/-- Nothing is pending. -/
theorem of_idle (hpending : s.pending = none) (hgiven : P s.given)
    (hpositionals : ∀ v ∈ s.positionals, v ∈ scope.positionals) : Holds scope P s := by
  refine ⟨fun _ => hgiven, fun v h => ?_, fun v text h => ?_, hpositionals⟩ <;>
  · rw [hpending] at h
    cases h

/-- The value of an argument is there. -/
theorem of_valued (hpending : s.pending = some (v, some text)) (hgiven : ∀ g, s.given.put v text = .ok g → P g)
    (hpositionals : ∀ v ∈ s.positionals, v ∈ scope.positionals) : Holds scope P s := by
  refine ⟨fun h => ?_, fun v h => ?_, fun v text h => ?_, hpositionals⟩ <;> rw [hpending] at h <;> cases h
  exact hgiven

/-- The value of an argument is still to come. -/
theorem of_awaiting (hpending : s.pending = some (v, none)) (hv : scope.Offers v) (hgiven : P s.given)
    (hpositionals : ∀ v ∈ s.positionals, v ∈ scope.positionals) : Holds scope P s := by
  refine ⟨fun h => ?_, fun v h => ?_, fun v text h => ?_, hpositionals⟩ <;> rw [hpending] at h <;> cases h
  exact ⟨hv, hgiven⟩

theorem settle (h : Holds scope P s) (ht : s.settle = .ok t) :
    t.pending = none ∧ P t.given ∧ ∀ v ∈ t.positionals, v ∈ scope.positionals := by
  unfold State.settle at ht
  split at ht
  · next hpending =>
    cases ht
    exact ⟨hpending, h.idle hpending, h.positionals⟩
  · cases ht
  · next v text hpending =>
    obtain ⟨given, hput, heq⟩ := bind_eq_ok_iff.1 ht
    cases heq
    exact ⟨rfl, h.valued v text hpending given hput, h.positionals⟩

theorem mark {f : Flag} (h : Holds scope P s) (hP : Stable scope P) (ht : s.mark scope f = .ok t) :
    Holds scope P t := by
  obtain ⟨u, hu, hmark⟩ := bind_eq_ok_iff.1 ht
  obtain ⟨given, hgiven, heq⟩ := bind_eq_ok_iff.1 hmark
  cases heq
  obtain ⟨hpending, hsettled, hpositionals⟩ := h.settle hu
  exact of_idle hpending (hP.mark _ _ _ hsettled hgiven) hpositionals

theorem put (h : Holds scope P s) (hP : Stable scope P) (hv : scope.Offers v) (ht : s.put v text = .ok t) :
    Holds scope P t := by
  obtain ⟨u, hu, hput⟩ := bind_eq_ok_iff.1 ht
  obtain ⟨given, hgiven, heq⟩ := bind_eq_ok_iff.1 hput
  cases heq
  obtain ⟨hpending, hsettled, hpositionals⟩ := h.settle hu
  exact of_idle hpending (hP.put _ _ _ _ hv hsettled hgiven) hpositionals

theorem await (h : Holds scope P s) (hv : scope.Offers v) (ht : s.await v = .ok t) : Holds scope P t := by
  obtain ⟨u, hu, heq⟩ := bind_eq_ok_iff.1 ht
  cases heq
  obtain ⟨-, hsettled, hpositionals⟩ := h.settle hu
  exact of_awaiting rfl hv hsettled hpositionals

theorem takePositional (h : Holds scope P s) (hP : Stable scope P)
    (ht : s.takePositional scope text = .ok t) : Holds scope P t := by
  unfold State.takePositional at ht
  split at ht
  · next v positionals hpositionals =>
    obtain ⟨u, hu, heq⟩ := bind_eq_ok_iff.1 ht
    cases heq
    have hall : ∀ w ∈ v :: positionals, w ∈ scope.positionals := hpositionals ▸ h.positionals
    obtain ⟨hv, hrest⟩ := List.forall_mem_cons.1 hall
    exact of_valued rfl (fun g => hP.put _ _ _ _ (.inr hv) (h.settle hu).2.1) hrest
  · split at ht <;> cases ht

theorem takeLong {name : String} {value : Option String} (h : Holds scope P s) (hP : Stable scope P)
    (ht : s.takeLong scope name value = .ok t) : Holds scope P t := by
  unfold State.takeLong at ht
  split at ht
  · cases ht
  · exact h.mark hP ht
  · cases ht
  · next hoption => exact h.await (.inl (List.mem_of_find?_eq_some hoption)) ht
  · next hoption => exact h.put hP (.inl (List.mem_of_find?_eq_some hoption)) ht

theorem takeLetters {letters : List Char} (h : Holds scope P s) (hP : Stable scope P)
    (ht : s.takeLetters scope letters = .ok t) : Holds scope P t := by
  induction letters generalizing s with
  | nil =>
    cases ht
    exact h
  | cons letter rest ih =>
    unfold State.takeLetters at ht
    split at ht
    · cases ht
    · obtain ⟨u, hu, hrest⟩ := bind_eq_ok_iff.1 ht
      exact ih (h.mark hP hu) hrest
    · next hoption =>
      have hv : scope.Offers _ := .inl (List.mem_of_find?_eq_some hoption)
      split at ht
      · exact h.await hv ht
      · exact h.put hP hv ht
      · exact h.put hP hv ht

/-- One argument that leads to no other scope. -/
theorem take {arg : String} (h : Holds scope P s) (hP : Stable scope P) (ht : s.take scope arg = .ok t) :
    Holds scope P t := by
  unfold State.take at ht
  split at ht
  · exact h.takePositional hP ht
  · split at ht
    · cases ht
      exact ⟨h.idle, h.awaiting, h.valued, h.positionals⟩
    · exact h.takeLong hP ht
    · exact h.takeLetters hP ht
    · split at ht
      · next hpending =>
        cases ht
        obtain ⟨hv, hgiven⟩ := h.awaiting _ hpending
        exact of_valued rfl (fun g => hP.put _ _ _ _ hv hgiven) h.positionals
      · exact h.takePositional hP ht

end Holds

theorem finish_eq_ok {inner : Option (Scope × Given)} {ended : Scope × Given}
    (h : s.finish scope inner = .ok ended) : ∃ t, s.settle = .ok t ∧
      ended = inner.elim (scope, t.given) fun behind => (behind.1, t.given.merge behind.2) := by
  obtain ⟨t, ht, hrest⟩ := bind_eq_ok_iff.1 h
  refine ⟨t, ht, ?_⟩
  dsimp only at hrest
  obtain hchildren | hchildren := Bool.eq_false_or_eq_true (scope.hasChildren && inner.isNone)
  · rw [if_pos hchildren] at hrest
    cases hrest
  · rw [if_neg (by simp [hchildren])] at hrest
    cases hrequired : scope.required.all fun v => t.given.has (.valued v) with
    | false =>
      rw [hrequired] at hrest
      cases inner <;> cases hrest
    | true =>
      rw [hrequired] at hrest
      cases inner <;> cases hrest <;> rfl

/-- All arguments up to the end: the command line ends in the scope, or in one that it leads on to. -/
theorem Holds.read {args : List String} {leaf : Scope} {g : Given} (h : Holds scope P s) (hP : Stable scope P)
    (hread : CommandLine.read scope s args = .ok (leaf, g)) :
    ∃ outer, P outer ∧ (leaf = scope ∧ g = outer ∨
      ∃ child ∈ scope.children.map Prod.snd, ∃ rest inner,
        CommandLine.read child (.start child) rest = .ok (leaf, inner) ∧ g = outer.merge inner) := by
  induction args generalizing s with
  | nil =>
    obtain ⟨t, ht, heq⟩ := finish_eq_ok hread
    cases heq
    exact ⟨t.given, (h.settle ht).2.1, .inl ⟨rfl, rfl⟩⟩
  | cons arg rest ih =>
    rw [CommandLine.read] at hread
    split at hread
    · cases hread
    · split at hread
      · next child hword =>
        obtain ⟨⟨leaf, inner⟩, hinner, hfinish⟩ := bind_eq_ok_iff.1 hread
        obtain ⟨t, ht, heq⟩ := finish_eq_ok hfinish
        cases heq
        refine ⟨t.given, (h.settle ht).2.1, .inr ⟨child, ?_, rest, inner, hinner, rfl⟩⟩
        split at hword
        · cases hword
        · obtain ⟨front, back, heq, -⟩ := List.lookup_eq_some_iff.1 hword
          rw [heq]
          simp
      · obtain ⟨t, ht, hrest⟩ := bind_eq_ok_iff.1 hread
        exact ih (h.take hP ht) hrest

/-! ## The bus -/

/-- The bus was given. -/
def Given.Names (bus : String) (g : Given) : Prop := g.bus = some bus ∧ g.has (.valued .bus) = true

theorem see_eq_ok {g g' : Given} {a : Argument} (h : g.see a = .ok g') :
    g.has a = false ∧ g' = { g with seen := a :: g.seen } := by
  unfold Given.see at h
  split at h
  · cases h
  · next hhas =>
    cases h
    exact ⟨by simpa using hhas, rfl⟩

/-- What a value leaves of the bus: it is new, and then it is the value. -/
theorem put_bus {g g' : Given} (h : g.put v text = .ok g') :
    g.has (.valued v) = false ∧ g'.seen = .valued v :: g.seen ∧
      g'.bus = if v = .bus then some text else g.bus := by
  obtain ⟨seen, hsee, hrest⟩ := bind_eq_ok_iff.1 h
  obtain ⟨hhas, rfl⟩ := see_eq_ok hsee
  refine ⟨hhas, ?_⟩
  cases v with
  | bus =>
    cases hrest
    exact ⟨rfl, rfl⟩
  | expectedVersion =>
    cases hrest
    exact ⟨rfl, rfl⟩
  | state =>
    dsimp only at hrest
    split at hrest <;> cases hrest
    exact ⟨rfl, rfl⟩
  | _ =>
    obtain ⟨value, -, heq⟩ := bind_eq_ok_iff.1 hrest
    cases heq
    exact ⟨rfl, rfl⟩

theorem mark_bus {g g' : Given} {f : Flag} (h : g.mark scope f = .ok g') :
    g'.seen = .flag f :: g.seen ∧ g'.bus = g.bus := by
  cases f with
  | help => cases h
  | version => cases h
  | verbose =>
    cases h
    exact ⟨rfl, rfl⟩
  | _ =>
    obtain ⟨-, rfl⟩ := see_eq_ok h
    exact ⟨rfl, rfl⟩

/-- An option is not taken twice, so the bus stays what it is. -/
theorem stable_names (bus : String) : Stable scope (Given.Names bus) where
  put g v text g' _ hnames hput := by
    obtain ⟨hbus, hhas⟩ := hnames
    obtain ⟨hnew, hseen, hbus'⟩ := put_bus hput
    have hv : v ≠ .bus := by
      rintro rfl
      rw [hhas] at hnew
      cases hnew
    refine ⟨by rw [hbus', if_neg hv, hbus], ?_⟩
    rw [Given.has, hseen, List.contains_cons]
    exact Bool.or_eq_true_iff.2 (.inr hhas)
  mark g f g' hnames hmark := by
    obtain ⟨hbus, hhas⟩ := hnames
    obtain ⟨hseen, hbus'⟩ := mark_bus hmark
    refine ⟨hbus'.trans hbus, ?_⟩
    rw [Given.has, hseen, List.contains_cons]
    exact Bool.or_eq_true_iff.2 (.inr hhas)

/-- Where no bus is offered none is given. -/
theorem stable_unnamed (h : ¬ scope.Offers .bus) : Stable scope fun g => g.bus = none where
  put g v text g' hv hnone hput := by
    obtain ⟨-, -, hbus⟩ := put_bus hput
    have hother : v ≠ .bus := by
      rintro rfl
      exact h hv
    rw [hbus, if_neg hother, hnone]
  mark g f g' hnone hmark := (mark_bus hmark).2.trans hnone

/-- The words of commands that are about a controller. -/
def busWords : List (String × Scope) :=
  [("info", .info), ("status", .status), ("locate", .locate), ("power", .power), ("update", .update)]

/-- Behind a scope that offers a bus there is none that does. -/
theorem bus_of_read_child {child : Scope} {args : List String} {leaf : Scope} {g : Given}
    (hbus : ¬ child.Offers .bus) (hchildren : child.children = [])
    (h : read child (.start child) args = .ok (leaf, g)) : leaf = child ∧ g.bus = none := by
  have hstart : Holds child (fun g => g.bus = none) (.start child) := .of_idle rfl rfl fun _ hv => hv
  obtain ⟨outer, hnone, ⟨rfl, rfl⟩ | ⟨grandchild, hmem, -⟩⟩ := hstart.read (stable_unnamed hbus) h
  · exact ⟨rfl, hnone⟩
  · rw [hchildren] at hmem
    cases hmem

theorem read_word {word : String} {args : List String} (hword : (word, scope) ∈ busWords) :
    read .top (.start .top) (word :: args) =
      (read scope (.start scope) args >>= fun inner => (State.start .top).finish .top (some inner)) := by
  simp only [busWords, List.mem_cons, Prod.mk.injEq, List.not_mem_nil, or_false] at hword
  obtain ⟨rfl, rfl⟩ | ⟨rfl, rfl⟩ | ⟨rfl, rfl⟩ | ⟨rfl, rfl⟩ | ⟨rfl, rfl⟩ := hword <;> rfl

theorem take_value {arg : String} (harg : arg.toList.head? ≠ some '-') (htrailing : s.trailing = false)
    (hpending : s.pending = some (v, none)) :
    s.take scope arg = .ok { s with pending := some (v, some arg) } := by
  unfold State.take
  rw [htrailing, if_neg (by decide)]
  split
  · next heq => simp [heq] at harg
  · next heq => simp [heq] at harg
  · next heq => simp [heq] at harg
  · rw [hpending]

/-- The option and its value. -/
theorem read_bus {word bus : String} {rest : List String} (hword : (word, scope) ∈ busWords)
    (hbus : bus.toList.head? ≠ some '-') :
    read scope (.start scope) ("--bus" :: bus :: rest) =
      read scope { State.start scope with pending := some (.bus, some bus) } rest := by
  have hoption : ∀ args, read scope (.start scope) ("--bus" :: args) =
      read scope { State.start scope with pending := some (.bus, none) } args := by
    intro args
    simp only [busWords, List.mem_cons, Prod.mk.injEq, List.not_mem_nil, or_false] at hword
    obtain ⟨rfl, rfl⟩ | ⟨rfl, rfl⟩ | ⟨rfl, rfl⟩ | ⟨rfl, rfl⟩ | ⟨rfl, rfl⟩ := hword <;> rfl
  have hvalue : ∀ s : State, s.trailing = false → s.pending = some (.bus, none) →
      read scope s (bus :: rest) = read scope { s with pending := some (.bus, some bus) } rest := by
    intro s htrailing hpending
    have hawaits : s.awaits = true := by rw [State.awaits, hpending]
    rw [CommandLine.read, hawaits, take_value hbus htrailing hpending]
    simp
    rfl
  rw [hoption, hvalue _ rfl rfl]

/-- Nothing behind these words leads to a scan, or to a scope that offers another bus. -/
theorem scopes_of_busWords {word : String} (hword : (word, scope) ∈ busWords) :
    scope ≠ .scan ∧
      ∀ child ∈ scope.children.map Prod.snd, child ≠ .scan ∧ ¬ child.Offers .bus ∧ child.children = [] := by
  have hall : ∀ pair ∈ busWords, pair.2 ≠ .scan ∧ ∀ child ∈ pair.2.children.map Prod.snd,
      child ≠ .scan ∧ ¬ child.Offers .bus ∧ child.children = [] := by decide
  exact hall _ hword

/-- Every command but a scan is about the controller that was given. -/
theorem bus?_of_command? {g : Given} {command : Command} {bus : String} (hbus : g.bus = some bus)
    (hscope : scope ≠ .scan) (h : g.command? scope = some command) :
    ∃ address pec, command.bus? = some ⟨bus, address, pec⟩ := by
  obtain ⟨args, hargs, hargsBus⟩ : ∃ args, g.busArgs? = some args ∧ args.bus = bus := by
    rw [Given.busArgs?, hbus]
    exact ⟨_, rfl, rfl⟩
  have hcommand : command.bus? = some args := by
    cases scope with
    | scan => exact absurd rfl hscope
    | top => cases h
    | locate => cases h
    | _ =>
      simp only [Given.command?, hargs, Option.pure_def, Option.bind_eq_bind, Option.bind_some,
        Option.bind_eq_some_iff, Option.some.injEq] at h
      first
      | exact h ▸ rfl
      | obtain ⟨-, -, rfl⟩ := h; rfl
      | obtain ⟨-, -, -, -, rfl⟩ := h; rfl
  exact ⟨args.address, args.pec, hcommand.trans (hargsBus ▸ rfl)⟩

/-- The bus behind `--bus` is the bus of the command, whatever else the command line says. -/
theorem bus?_of_parse {word bus : String} {scope : Scope} {rest : List String} {parsed : Parsed}
    (hword : (word, scope) ∈ busWords) (hbus : bus.toList.head? ≠ some '-')
    (h : parse (word :: "--bus" :: bus :: rest) = .ok parsed) :
    ∃ address pec, parsed.command.bus? = some ⟨bus, address, pec⟩ := by
  obtain ⟨⟨_, given⟩, hread, hcommand⟩ := bind_eq_ok_iff.1 h
  rw [read_word hword] at hread
  obtain ⟨⟨leaf, inner⟩, hinner, hfinish⟩ := bind_eq_ok_iff.1 hread
  obtain ⟨t, ht, hmerged⟩ := finish_eq_ok hfinish
  cases ht
  cases hmerged
  rw [read_bus hword hbus] at hinner
  have hholds : Holds scope (Given.Names bus) { State.start scope with pending := some (.bus, some bus) } := by
    refine .of_valued rfl (fun g hput => ?_) fun _ hv => hv
    obtain ⟨-, hseen, hnamed⟩ := put_bus hput
    refine ⟨hnamed, ?_⟩
    rw [Given.has, hseen]
    rfl
  obtain ⟨hscope, hchildren⟩ := scopes_of_busWords hword
  have hends : inner.bus = some bus ∧ leaf ≠ .scan := by
    obtain ⟨outer, ⟨hnamed, -⟩, ⟨rfl, rfl⟩ | ⟨child, hmem, behind, deeper, hdeeper, rfl⟩⟩ :=
      hholds.read (stable_names bus) hinner
    · exact ⟨hnamed, hscope⟩
    · obtain ⟨hscan, hoffers, hleaf⟩ := hchildren child hmem
      obtain ⟨rfl, hnone⟩ := bus_of_read_child hoffers hleaf hdeeper
      refine ⟨?_, hscan⟩
      rw [Given.merge, hnone, hnamed]
      rfl
  have hgiven : ((State.start .top).given.merge inner).bus = some bus := by
    rw [Given.merge, hends.1]
    rfl
  dsimp only at hcommand
  split at hcommand
  · next command hsome =>
    cases hcommand
    exact bus?_of_command? hgiven hends.2 hsome
  · cases hcommand

/-- The shortest command line that is about a controller. -/
theorem parse_info {bus : String} (hbus : bus.toList.head? ≠ some '-') :
    parse ["info", "--bus", bus] = .ok ⟨.info ⟨bus, Given.defaultAddress, false⟩, 0⟩ := by
  have hword : ("info", Scope.info) ∈ busWords := by decide
  have hread : read .info (.start .info) ["--bus", bus] =
      .ok (.info, { seen := [.valued .bus], bus := some bus }) := by
    rw [read_bus hword hbus]
    rfl
  rw [parse, read_word hword, hread]
  rfl

end Backplane.CommandLine
