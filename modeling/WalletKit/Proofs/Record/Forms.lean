import Mathlib.Data.List.Forall2
import WalletKit.Proofs.Record.Inputs

set_option autoImplicit false

namespace WalletKit.Record

/-- The fields of a record by their names, in the order in which they are declared. -/
abbrev Form := List (String × Demand)

theorem faultOf_map {α β : Type} (field : String) (f : α → β) (result : Except Cause α) :
    faultOf field (result.map f) = faultOf field result := by
  cases result <;> rfl

theorem faultOf_eq_nil_iff {α : Type} {field : String} {result : Except Cause α} :
    faultOf field result = [] ↔ ∃ a, result = .ok a := by
  cases result <;> simp [faultOf]

namespace Form

/-- Every field accepts what is given for it. -/
def Accepts (form : Form) (fields : Fields) : Prop :=
  ∀ entry ∈ form, entry.2.Accepts (fields.get? entry.1)

/-- Every field takes what is given for it, and these are the contents. -/
def Holds (form : Form) (fields : Fields) (contents : List Content) : Prop :=
  List.Forall₂ (fun entry content => entry.2.Takes (fields.get? entry.1) content) form contents

/-- The faults are one for each field that does not accept what is given for it, in the order of
the fields and with the reason, and none for the others. -/
def Reports (form : Form) (fields : Fields) (faults : List Fault) : Prop :=
  List.Forall₂
    (fun entry fault =>
      fault.field = entry.1 ∧ entry.2.Refuses (fields.get? entry.1) fault.cause)
    (form.filter fun entry => ¬ entry.2.Accepts (fields.get? entry.1)) faults

def faults (form : Form) (fields : Fields) : List Fault :=
  form.flatMap fun entry => faultOf entry.1 (entry.2.check (fields.get? entry.1))

/-- The fields are given alike, apart from names that the form does not have. -/
def Agree (form : Form) (fields other : Fields) : Prop :=
  ∀ name ∈ form.map Prod.fst, fields.get? name = other.get? name

variable {form : Form} {fields other : Fields}

theorem reports_faults (form : Form) (fields : Fields) :
    form.Reports fields (form.faults fields) := by
  unfold Reports
  induction form with
  | nil => exact List.Forall₂.nil
  | cons entry rest ih =>
      rw [faults, List.flatMap_cons]
      cases checked : entry.2.check (fields.get? entry.1) with
      | ok content =>
          have kept : ¬ ¬ entry.2.Accepts (fields.get? entry.1) :=
            not_not_intro (Demand.accepts_of_check checked)
          rw [List.filter_cons_of_neg (by simpa using kept), faultOf, List.nil_append]
          exact ih
      | error cause =>
          have refused := Demand.not_accepts_of_check checked
          rw [List.filter_cons_of_pos (by simpa using refused), faultOf, List.singleton_append]
          exact .cons ⟨rfl, Demand.check_error_iff.mp checked⟩ ih

theorem Holds.accepts {contents : List Content} (holds : form.Holds fields contents) :
    form.Accepts fields := by
  induction holds with
  | nil => exact List.forall_mem_nil _
  | cons takes _ ih => exact List.forall_mem_cons.mpr ⟨⟨_, takes⟩, ih⟩

theorem Holds.unique {first second : List Content} (one : form.Holds fields first)
    (two : form.Holds fields second) : first = second := by
  refine List.right_unique_forall₂' ?_ one two
  intro entry content contents left right
  have same := (Demand.check_of_takes left).symm.trans (Demand.check_of_takes right)
  exact Except.ok.inj same

theorem faults_eq_nil_of_accepts (accepts : form.Accepts fields) : form.faults fields = [] := by
  have reports := reports_faults form fields
  have none : (form.filter fun entry => ¬ entry.2.Accepts (fields.get? entry.1)) = [] := by
    rw [List.filter_eq_nil_iff]
    intro entry inside
    simpa using accepts entry inside
  rw [Reports, none] at reports
  exact List.forall₂_nil_left_iff.mp reports

theorem Agree.symm (agree : form.Agree fields other) : form.Agree other fields :=
  fun name inside => (agree name inside).symm

theorem Agree.holds (agree : form.Agree fields other) {contents : List Content}
    (holds : form.Holds fields contents) : form.Holds other contents := by
  refine List.Forall₂.imp ?_ ((List.forall₂_and_left _ _).mpr ⟨fun _ inside => inside, holds⟩)
  rintro entry content ⟨inside, takes⟩
  rwa [← agree entry.1 (List.mem_map_of_mem inside)]

theorem Agree.faults (agree : form.Agree fields other) :
    form.faults fields = form.faults other := by
  apply List.flatMap_congr
  intro entry inside
  rw [agree entry.1 (List.mem_map_of_mem inside)]

end Form

theorem get?_eq_some_iff {fields : Fields} (distinct : (fields.map Prod.fst).Nodup) (name : String)
    (input : Input) : fields.get? name = some input ↔ (name, input) ∈ fields := by
  induction fields with
  | nil => simp [Fields.get?]
  | cons entry rest ih =>
      rw [List.map_cons, List.nodup_cons] at distinct
      by_cases here : entry.1 = name
      · have first : Fields.get? (entry :: rest) name = some entry.2 := by simp [Fields.get?, here]
        have absent : (name, input) ∉ rest := by
          intro inside
          exact distinct.1 (here ▸ List.mem_map_of_mem inside)
        rw [first, Option.some_inj, List.mem_cons, or_iff_left absent, Prod.ext_iff]
        exact ⟨fun same => ⟨here.symm, same.symm⟩, fun same => same.2.symm⟩
      · have later : Fields.get? (entry :: rest) name = Fields.get? rest name := by
          simp [Fields.get?, here]
        have other : (name, input) ≠ entry := fun same => here (same ▸ rfl)
        rw [later, ih distinct.2, List.mem_cons, or_iff_right other]

/-- Where no name occurs twice the order of the input is of no account. -/
theorem get?_of_perm {fields other : Fields} (same : fields.Perm other)
    (distinct : (fields.map Prod.fst).Nodup) (name : String) :
    fields.get? name = other.get? name := by
  have again := (same.map Prod.fst).nodup_iff.mp distinct
  ext input
  rw [get?_eq_some_iff distinct, get?_eq_some_iff again, same.mem_iff]

/-- Records that are built by their form. A record is known by the contents of its fields; it is
built if and only if all fields accept what is given for them, and then holds what they take. If it
is not built, all faults are reported. The order in which the fields are given, and names that the
form does not have, are of no account. -/
structure BuildsBy {α : Type} (form : Form) (contents : α → List Content)
    (build : Fields → Except (List Fault) α) : Prop where
  distinct : (form.map Prod.fst).Nodup
  known : Function.Injective contents
  succeeds : ∀ fields, (∃ record, build fields = .ok record) ↔ form.Accepts fields
  holds : ∀ fields record, build fields = .ok record ↔ form.Holds fields (contents record)
  fails : ∀ fields faults, build fields = .error faults → form.Reports fields faults
  agrees : ∀ fields other, form.Agree fields other → build fields = build other
  permuted : ∀ fields other, fields.Perm other → (fields.map Prod.fst).Nodup →
    build fields = build other

/-- It is enough that a record which is built holds what its fields take, and that otherwise the
faults of the form are reported, of which there is one at least. -/
theorem BuildsBy.of_faults {α : Type} {form : Form} {contents : α → List Content}
    {build : Fields → Except (List Fault) α} (distinct : (form.map Prod.fst).Nodup)
    (known : Function.Injective contents)
    (holds : ∀ {fields record}, build fields = .ok record → form.Holds fields (contents record))
    (fails : ∀ {fields faults}, build fields = .error faults →
      faults = form.faults fields ∧ faults ≠ []) : BuildsBy form contents build := by
  have succeeds (fields : Fields) :
      (∃ record, build fields = .ok record) ↔ form.Accepts fields := by
    constructor
    · rintro ⟨record, built⟩
      exact (holds built).accepts
    · intro accepts
      cases built : build fields with
      | ok record => exact ⟨record, rfl⟩
      | error faults =>
          obtain ⟨rfl, some⟩ := fails built
          exact absurd (Form.faults_eq_nil_of_accepts accepts) some
  -- What the fields take is unique, and so is the record that holds it.
  have held (fields : Fields) (record : α) :
      build fields = .ok record ↔ form.Holds fields (contents record) := by
    refine ⟨holds, fun held => ?_⟩
    obtain ⟨other, built⟩ := (succeeds fields).mpr held.accepts
    rw [built, known ((holds built).unique held)]
  have agrees (fields other : Fields) (agree : form.Agree fields other) :
      build fields = build other := by
    cases built : build fields with
    | ok record => exact ((held other record).mpr (agree.holds (holds built))).symm
    | error faults =>
        cases again : build other with
        | ok record =>
            rw [(held fields record).mpr (agree.symm.holds (holds again))] at built
            cases built
        | error others => rw [(fails built).1, (fails again).1, agree.faults]
  refine ⟨distinct, known, succeeds, held, ?_, agrees, ?_⟩
  · intro fields faults built
    rw [(fails built).1]
    exact Form.reports_faults form fields
  · intro fields other same once
    exact agrees fields other fun name _ => get?_of_perm same once name

end WalletKit.Record
