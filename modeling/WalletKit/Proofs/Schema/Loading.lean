import WalletKit.Proofs.Json.Unread
import WalletKit.Schema.Loader

set_option autoImplicit false

namespace WalletKit.Schema

open Json

/-- All that a directory can give for a name. -/
inductive Directory.Gives (d : Directory) (rules : Rules) (name : String) :
    Except LoadError Value → Prop where
  | absent (missing : d.get? name = none) : Gives d rules name (.error (.notFound name))
  | notRead {text : String} {failure : Failure} (found : d.get? name = some text)
    (reading : Reading rules.maxNesting text (.error failure)) :
    Gives d rules name (.error (.notRead failure))
  | notSchema {text : String} {v : Value} (found : d.get? name = some text)
    (reading : Reading rules.maxNesting text (.ok v)) (refused : rules.isSchema v = false) :
    Gives d rules name (.error (.notSchema name))
  | document {text : String} {v : Value} (found : d.get? name = some text)
    (reading : Reading rules.maxNesting text (.ok v)) (accepted : rules.isSchema v = true) :
    Gives d rules name (.ok v)

theorem Directory.gives_document (d : Directory) (rules : Rules) (name : String) :
    d.Gives rules name (d.document rules name) := by
  unfold Directory.document
  cases found : d.get? name with
  | none => exact .absent found
  | some text =>
      have reading := reading_read rules.maxNesting text
      dsimp only
      cases done : read rules.maxNesting text with
      | error failure =>
          rw [done] at reading
          exact .notRead found reading
      | ok v =>
          rw [done] at reading
          dsimp only
          cases judged : rules.isSchema v with
          | true => exact .document found reading judged
          | false => exact .notSchema found reading judged

namespace Loader

theorem load_of_cached {loader : Loader} {name : String} {v : Value}
    (cached : loader.get? name = some v) (d : Directory) :
    loader.load d name = (.ok v, loader) := by
  rw [load, cached]

theorem load_of_document {loader : Loader} {d : Directory} {name : String} {v : Value}
    (unknown : loader.get? name = none) (given : d.document loader.rules name = .ok v) :
    loader.load d name = (.ok v, { loader with loaded := (name, v) :: loader.loaded }) := by
  rw [load, unknown, given]

theorem load_of_error {loader : Loader} {d : Directory} {name : String} {e : LoadError}
    (unknown : loader.get? name = none) (failed : d.document loader.rules name = .error e) :
    loader.load d name = (.error e, loader) := by
  rw [load, unknown, failed]

theorem answer_of_unknown {loader : Loader} {name : String} (unknown : loader.get? name = none)
    (d : Directory) : (loader.load d name).1 = d.document loader.rules name := by
  cases given : d.document loader.rules name with
  | ok v => rw [load_of_document unknown given]
  | error e => rw [load_of_error unknown given]

theorem load_error_unchanged {loader : Loader} {d : Directory} {name : String} {e : LoadError}
    (failed : (loader.load d name).1 = .error e) : (loader.load d name).2 = loader := by
  cases known : loader.get? name with
  | some v => rw [load_of_cached known]
  | none =>
      rw [answer_of_unknown known] at failed
      rw [load_of_error known failed]

theorem get?_load_self {loader : Loader} {d : Directory} {name : String} {v : Value}
    (answered : (loader.load d name).1 = .ok v) : (loader.load d name).2.get? name = some v := by
  cases known : loader.get? name with
  | some kept =>
      rw [load_of_cached known] at answered ⊢
      cases answered
      exact known
  | none =>
      rw [answer_of_unknown known] at answered
      rw [load_of_document known answered]
      simp [get?]

theorem get?_load_of_ne {name other : String} (differs : other ≠ name) (loader : Loader)
    (d : Directory) : (loader.load d name).2.get? other = loader.get? other := by
  cases known : loader.get? name with
  | some v => rw [load_of_cached known]
  | none =>
      cases given : d.document loader.rules name with
      | ok v =>
          rw [load_of_document known given]
          simp [get?, differs.symm]
      | error e => rw [load_of_error known given]

theorem rules_load (loader : Loader) (d : Directory) (name : String) :
    (loader.load d name).2.rules = loader.rules := by
  unfold load
  split
  · rfl
  · split <;> rfl

end Loader

namespace Shelf

/-- What a load of `name` is answered with behind events. -/
def answer (shelf : Shelf) (events : List Event) (name : String) : Except LoadError Value :=
  ((shelf.after events).loader.load (shelf.after events).directory name).1

/-- What is kept of `name` behind events. -/
def cached (shelf : Shelf) (events : List Event) (name : String) : Option Value :=
  (shelf.after events).loader.get? name

/-- The first load of `name` among the events that succeeds gives `v`, the document that its file
holds at that time. -/
def FirstLoaded (shelf : Shelf) (events : List Event) (name : String) (v : Value) : Prop :=
  ∃ front back, events = front ++ .load name :: back ∧
    shelf.answer front name = .ok v ∧
    (shelf.after front).directory.Gives shelf.loader.rules name (.ok v) ∧
    ∀ early late, front = early ++ .load name :: late → ∃ e, shelf.answer early name = .error e

theorem rules_handle (shelf : Shelf) (event : Event) :
    (shelf.handle event).2.loader.rules = shelf.loader.rules := by
  cases event with
  | write | delete => rfl
  | load name => exact shelf.loader.rules_load shelf.directory name

theorem rules_after (shelf : Shelf) (events : List Event) :
    (shelf.after events).loader.rules = shelf.loader.rules :=
  Process.after_invariant (fun next : Shelf => next.loader.rules = shelf.loader.rules)
    (fun next event same => (next.rules_handle event).trans same) rfl events

/-- Only a load of the name itself can change what is kept of it. -/
theorem get?_handle_of_ne_load {event : Event} {name : String} (other : event ≠ .load name)
    (shelf : Shelf) : (shelf.handle event).2.loader.get? name = shelf.loader.get? name := by
  cases event with
  | write | delete => rfl
  | load loaded =>
      have differs : name ≠ loaded := fun same => other (by rw [same])
      exact Loader.get?_load_of_ne differs shelf.loader shelf.directory

theorem get?_handle_of_cached {shelf : Shelf} {name : String} {v : Value}
    (cached : shelf.loader.get? name = some v) (event : Event) :
    (shelf.handle event).2.loader.get? name = some v := by
  by_cases load : event = .load name
  · rw [load]
    apply Loader.get?_load_self
    rw [Loader.load_of_cached cached]
  · rw [get?_handle_of_ne_load load, cached]

theorem get?_after_of_cached {shelf : Shelf} {name : String} {v : Value}
    (cached : shelf.loader.get? name = some v) (events : List Event) :
    (shelf.after events).loader.get? name = some v :=
  Process.after_invariant (fun next : Shelf => next.loader.get? name = some v)
    (fun _ event kept => get?_handle_of_cached kept event) cached events

/-- As long as nothing is kept of a name, a first event that does not load it is as good as none. -/
theorem firstLoaded_cons_iff {shelf : Shelf} {event : Event} {name : String}
    (failed : event = .load name → ∃ e, shelf.answer [] name = .error e) (events : List Event)
    (v : Value) :
    shelf.FirstLoaded (event :: events) name v ↔
      (shelf.handle event).2.FirstLoaded events name v := by
  unfold FirstLoaded
  rw [rules_handle]
  constructor
  · intro loaded
    obtain ⟨front, back, split, answered, gives, earlier⟩ := loaded
    cases front with
    | nil =>
        cases split
        obtain ⟨e, refused⟩ := failed rfl
        rw [refused] at answered
        cases answered
    | cons first front =>
        rw [List.cons_append, List.cons.injEq] at split
        obtain ⟨rfl, rest⟩ := split
        refine ⟨front, back, rest, answered, gives, ?_⟩
        intro early late shape
        exact earlier (event :: early) late (by rw [shape, List.cons_append])
  · intro loaded
    obtain ⟨front, back, split, answered, gives, earlier⟩ := loaded
    refine ⟨event :: front, back, by rw [split, List.cons_append], answered, gives, ?_⟩
    intro early late shape
    cases early with
    | nil =>
        rw [List.nil_append, List.cons.injEq] at shape
        exact failed shape.1
    | cons first early =>
        rw [List.cons_append, List.cons.injEq] at shape
        obtain ⟨rfl, rest⟩ := shape
        exact earlier early late rest

/-- If the first event is a load of the name and succeeds, it is the first such load. -/
theorem firstLoaded_cons_of_success {shelf : Shelf} {name : String} {first : Value}
    (unknown : shelf.loader.get? name = none) (answered : shelf.answer [] name = .ok first)
    (events : List Event) (v : Value) :
    shelf.FirstLoaded (.load name :: events) name v ↔ first = v := by
  constructor
  · rintro ⟨front, back, split, again, -, earlier⟩
    cases front with
    | nil =>
        rw [answered] at again
        exact Except.ok.inj again
    | cons entry front =>
        rw [List.cons_append, List.cons.injEq] at split
        obtain ⟨e, refused⟩ := earlier [] front (by rw [← split.1]; rfl)
        rw [answered] at refused
        cases refused
  · rintro rfl
    have given := Loader.answer_of_unknown unknown shelf.directory
    have gives := shelf.directory.gives_document shelf.loader.rules name
    refine ⟨[], events, rfl, answered, ?_, ?_⟩
    · rw [← given] at gives
      exact answered ▸ gives
    · intro early late shape
      simp at shape

/-- The first load of a name that succeeds is the one that is kept. -/
theorem get?_after_eq_some_iff {shelf : Shelf} {name : String}
    (unknown : shelf.loader.get? name = none) (events : List Event) (v : Value) :
    (shelf.after events).loader.get? name = some v ↔ shelf.FirstLoaded events name v := by
  induction events generalizing shelf with
  | nil =>
      have nothing : (shelf.after []).loader.get? name = none := unknown
      rw [nothing]
      constructor
      · intro kept
        cases kept
      · intro loaded
        obtain ⟨front, back, split, -⟩ := loaded
        simp at split
  | cons event events ih =>
      have later : (shelf.after (event :: events)).loader.get? name =
          ((shelf.handle event).2.after events).loader.get? name := rfl
      rw [later]
      -- The first event settles the matter, or it leaves things as if it had not been.
      by_cases load : event = .load name
      · rw [load]
        cases answered : shelf.answer [] name with
        | error e =>
            have still : (shelf.handle (.load name)).2.loader.get? name = none :=
              (congrArg (Loader.get? · name) (Loader.load_error_unchanged answered)).trans unknown
            rw [firstLoaded_cons_iff fun _ => ⟨e, answered⟩, ih still]
        | ok first =>
            have kept : (shelf.handle (.load name)).2.loader.get? name = some first :=
              Loader.get?_load_self answered
            rw [get?_after_of_cached kept, Option.some_inj,
              firstLoaded_cons_of_success unknown answered]
      · have still : (shelf.handle event).2.loader.get? name = none := by
          rw [get?_handle_of_ne_load load, unknown]
        rw [firstLoaded_cons_iff fun same => absurd same load, ih still]

/-- The answer to the load of a name behind which nothing is kept of it. -/
theorem gives_answer_of_uncached {shelf : Shelf} {events : List Event} {name : String}
    (unknown : shelf.cached events name = none) :
    (shelf.after events).directory.Gives shelf.loader.rules name (shelf.answer events name) := by
  have given := Loader.answer_of_unknown unknown (shelf.after events).directory
  rw [rules_after] at given
  rw [answer, given]
  exact Directory.gives_document _ _ _

theorem place_handle (shelf : Shelf) (event : Event) :
    (shelf.handle event).2.directory.place = shelf.directory.place := by
  cases event with
  | load => rfl
  | write path =>
      rw [handle, Directory.write]
      cases shelf.directory.place.fileName? path <;> rfl
  | delete path =>
      rw [handle, Directory.delete]
      cases shelf.directory.place.fileName? path <;> rfl

theorem place_after (shelf : Shelf) (events : List Event) :
    (shelf.after events).directory.place = shelf.directory.place :=
  Process.after_invariant (fun next : Shelf => next.directory.place = shelf.directory.place)
    (fun next event same => (next.place_handle event).trans same) rfl events

/-- What is not kept is loaded from the directory that an event before the load leaves. -/
theorem answer_concat_of_uncached {shelf : Shelf} {events : List Event} {event : Event}
    {name : String} (other : event ≠ .load name) (unknown : shelf.cached events name = none) :
    shelf.answer (events ++ [event]) name =
      ((shelf.after events).handle event).2.directory.document shelf.loader.rules name := by
  have handled : shelf.after (events ++ [event]) = ((shelf.after events).handle event).2 :=
    Process.after_concat handle shelf events event
  have still : ((shelf.after events).handle event).2.loader.get? name = none :=
    (get?_handle_of_ne_load other _).trans unknown
  rw [answer, handled, Loader.answer_of_unknown still, rules_handle, rules_after]

theorem answer_of_repaired {shelf : Shelf} {events : List Event} {name file text : String}
    {v : Value} (leads : shelf.directory.place.fileName? name = some file)
    (unknown : shelf.cached events name = none)
    (shallow : ¬ BeginsTooDeep shelf.loader.rules.maxNesting text)
    (spells : Spells text v) (accepted : shelf.loader.rules.isSchema v = true) :
    shelf.answer (events ++ [.write name text]) name = .ok v := by
  have still : (shelf.after events).directory.place.fileName? name = some file := by
    rw [place_after, leads]
  have written : ((shelf.after events).directory.write name text).get? name = some text :=
    Directory.get?_write_self _ still text
  rw [answer_concat_of_uncached Event.noConfusion unknown, handle]
  dsimp only
  rw [Directory.document, written]
  dsimp only
  rw [read_of_spells shallow spells]
  dsimp only
  rw [if_pos accepted]

theorem answer_of_deleted {shelf : Shelf} {events : List Event} {name : String}
    (unknown : shelf.cached events name = none) :
    shelf.answer (events ++ [.delete name]) name = .error (.notFound name) := by
  have gone : ((shelf.after events).directory.delete name).get? name = none :=
    Directory.get?_delete_self _ name
  rw [answer_concat_of_uncached Event.noConfusion unknown, handle]
  dsimp only
  rw [Directory.document, gone]

/-- The event changes another file than the one that `name` leads to, or loads another name. -/
def Event.Elsewhere (place : Place) (name : String) : Event → Prop
  | .write path _ => place.fileName? name ≠ place.fileName? path
  | .delete path => place.fileName? name ≠ place.fileName? path
  | .load other => name ≠ other

theorem get?_directory_handle {shelf : Shelf} {event : Event} {name : String}
    (elsewhere : Event.Elsewhere shelf.directory.place name event) :
    (shelf.handle event).2.directory.get? name = shelf.directory.get? name := by
  cases event with
  | write path text => exact shelf.directory.get?_write_of_ne elsewhere text
  | delete path => exact shelf.directory.get?_delete_of_ne elsewhere
  | load other => rfl

/-- What happens to other files and other names does not touch the answer to a load. -/
theorem answer_concat_of_elsewhere {shelf : Shelf} {event : Event} {name : String}
    (elsewhere : Event.Elsewhere shelf.directory.place name event) (events : List Event) :
    shelf.answer (events ++ [event]) name = shelf.answer events name := by
  have other : event ≠ .load name := by
    rintro rfl
    exact elsewhere rfl
  cases known : shelf.cached events name with
  | some v =>
      have still : shelf.cached (events ++ [event]) name = some v := by
        rw [cached, after, Process.after_concat]
        exact get?_handle_of_cached known event
      rw [answer, answer, Loader.load_of_cached still, Loader.load_of_cached known]
  | none =>
      rw [← place_after shelf events] at elsewhere
      rw [answer_concat_of_uncached other known, answer, Loader.answer_of_unknown known,
        rules_after, Directory.document, Directory.document, get?_directory_handle elsewhere]

/-- Exactly the documents that some load has given are kept, each as the first successful load of
its name found it, and all later loads of the name are answered with it, whatever becomes of the
file. Any other load is answered with what the directory gives then, and leaves no trace if it
fails, so that a file that is repaired is loaded after all, and one that is deleted is not. Other
events, loads of other names among them, do not touch what is kept of a name, and changes to other
files do not touch what it is answered with. -/
theorem first_success_kept (shelf : Shelf) (fresh : shelf.loader.loaded = []) :
    (∀ front name back, (shelf.run (front ++ .load name :: back))[front.length]? =
      some (some (shelf.answer front name))) ∧
    (∀ events name v, shelf.cached events name = some v ↔ shelf.FirstLoaded events name v) ∧
    (∀ events name v, shelf.cached events name = some v →
      ∀ more, shelf.answer (events ++ more) name = .ok v) ∧
    (∀ events name, shelf.cached events name = none →
      (shelf.after events).directory.Gives shelf.loader.rules name
        (shelf.answer events name)) ∧
    (∀ events name e, shelf.answer events name = .error e →
      (shelf.after (events ++ [.load name])).loader = (shelf.after events).loader) ∧
    (∀ events name file text v, shelf.directory.place.fileName? name = some file →
      shelf.cached events name = none →
      ¬ BeginsTooDeep shelf.loader.rules.maxNesting text → Spells text v →
      shelf.loader.rules.isSchema v = true →
      shelf.answer (events ++ [.write name text]) name = .ok v) ∧
    (∀ events name, shelf.cached events name = none →
      shelf.answer (events ++ [.delete name]) name = .error (.notFound name)) ∧
    (∀ events name event, event ≠ .load name →
      shelf.cached (events ++ [event]) name = shelf.cached events name) ∧
    ∀ events name event, Event.Elsewhere shelf.directory.place name event →
      shelf.answer (events ++ [event]) name = shelf.answer events name := by
  have empty : ∀ name, shelf.loader.get? name = none := by
    intro name
    rw [Loader.get?, fresh]
    rfl
  refine ⟨?_, ?_, ?_, ?_, ?_, ?_, ?_, ?_, ?_⟩
  · intro front name back
    exact Process.getElem?_answers handle shelf front (.load name) back
  · intro events name v
    exact get?_after_eq_some_iff (empty name) events v
  · intro events name v kept more
    have still : shelf.cached (events ++ more) name = some v := by
      rw [cached, after, Process.after_append]
      exact get?_after_of_cached kept more
    rw [answer, Loader.load_of_cached still]
  · intro events name unknown
    exact gives_answer_of_uncached unknown
  · intro events name e failed
    rw [after, Process.after_concat]
    exact Loader.load_error_unchanged failed
  · intro events name file text v leads unknown shallow spells accepted
    exact answer_of_repaired leads unknown shallow spells accepted
  · intro events name unknown
    exact answer_of_deleted unknown
  · intro events name event other
    rw [cached, after, Process.after_concat]
    exact get?_handle_of_ne_load other (shelf.after events)
  · intro events name event elsewhere
    exact answer_concat_of_elsewhere elsewhere events

def roomy : Shelf := { loader := { rules := { maxNesting := 990 } } }

/-- A file that could not be read is repaired, and its document stays when the file is gone. -/
theorem first_success_kept_of_repair :
    roomy.loader.loaded = [] ∧
    (∃ e, roomy.answer [.write "x" "\x7b"] "x" = .error e ∧
      (roomy.after [.write "x" "\x7b", .load "x"]).loader.loaded = []) ∧
    roomy.answer [.write "x" "\x7b", .load "x", .write "x" "\x7b\x7d"] "x" = .ok (.object []) ∧
    (∀ more, roomy.answer ([.write "x" "\x7b\x7d", .load "x", .delete "x"] ++ more) "x" =
      .ok (.object [])) ∧
    roomy.answer [.write "x" "\x7b", .delete "y"] "x" = roomy.answer [.write "x" "\x7b"] "x" := by
  obtain ⟨-, -, kept, -, failed, repaired, -, -, elsewhere⟩ := first_success_kept roomy rfl
  have reading : Reading 990 "\x7b\x7d" (.ok (.object [])) := reading_read 990 "\x7b\x7d"
  have plain : '/' ∉ "x".toList := by decide
  refine ⟨rfl, ⟨.notRead .unreadable, rfl, ?_⟩, ?_, ?_, ?_⟩
  · exact congrArg Loader.loaded (failed [.write "x" "\x7b"] "x" (.notRead .unreadable) rfl)
  · cases reading with
    | spelled shallow spells =>
        exact repaired [.write "x" "\x7b", .load "x"] "x" "x" "\x7b\x7d" _
          (Place.fileName?_eq_self _ plain) rfl shallow spells rfl
  · exact kept [.write "x" "\x7b\x7d", .load "x", .delete "x"] "x" (.object []) rfl
  · apply elsewhere [.write "x" "\x7b"] "x" (.delete "y")
    have other : '/' ∉ "y".toList := by decide
    rw [Event.Elsewhere, Place.fileName?_eq_self _ plain, Place.fileName?_eq_self _ other]
    decide

/-- The load of a single file that cannot be read. -/
theorem run_load_of_read_error {rules : Rules} {name text : String} {failure : Failure}
    (plain : '/' ∉ name.toList) (failed : read rules.maxNesting text = .error failure) :
    ({ directory := .ofFiles [(name, text)], loader := { rules } } : Shelf).run [.load name] =
      [some (.error (.notRead failure))] := by
  have found : (Directory.ofFiles [(name, text)]).get? name = some text :=
    Directory.get?_write_self {} (Place.fileName?_eq_self _ plain) text
  have unknown : ({ rules } : Loader).get? name = none := rfl
  have loaded := Loader.answer_of_unknown unknown (Directory.ofFiles [(name, text)])
  rw [Directory.document, found] at loaded
  dsimp only at loaded
  rw [failed] at loaded
  exact congrArg (fun answer => [some answer]) loaded

/-- Four thousand opening brackets are no JSON text, but where there is not room for all of them the
load of a file that holds them fails for their depth. -/
theorem brackets_not_loaded :
    (¬ ∃ v, Spells (String.ofList (List.replicate 4000 '[')) v) ∧
    ∀ rules : Rules, rules.maxNesting < 4000 → ∃ container,
      ({ directory := .ofFiles [("x", String.ofList (List.replicate 4000 '['))],
         loader := { rules } } : Shelf).run [.load "x"] =
        [some (.error (.notRead (.tooDeep container)))] := by
  refine ⟨fun given => given.elim (not_spells_brackets 4000), ?_⟩
  intro rules room
  obtain ⟨container, failed⟩ := tooDeep_of_brackets room
  exact ⟨container, run_load_of_read_error (by decide) failed⟩

end Shelf

end WalletKit.Schema
