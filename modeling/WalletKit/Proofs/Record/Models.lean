import WalletKit.Network
import WalletKit.Proofs.Record.Forms

set_option autoImplicit false

namespace WalletKit

namespace Record

/-- The attempt would change the record under a name that its freeze protects. -/
inductive Attempt.Barred : Attempt → String → Prop where
  | set {name : String} (value : Input) (shared : isPrivate name = false) :
    Barred (.set name value) name
  | delete (name : String) : Barred (.delete name) name

section
variable {α : Type}

/-- A private name that the attempt sets does not stand for the fields themselves. -/
def Attempt.Spares (attributes : Attributes α) (record : α) : Attempt → Prop
  | .set name value =>
    isPrivate name = true → ∀ next, attributes.set record name value = .ok next → next = record
  | .delete _ | .compare _ | .dump => True

variable [DecidableEq α]

/-- What an attempt on a record is answered with, the record being as it was built. -/
inductive Answered (model : Model α) (attributes : Attributes α) (record : α) :
    Attempt → Reply α → Prop where
  | barred {attempt : Attempt} {name : String} (barred : attempt.Barred name) :
    Answered model attributes record attempt (.frozen name)
  | set {name : String} {value : Input} (own : isPrivate name = true)
    (kept : attributes.set record name value = .ok record) :
    Answered model attributes record (.set name value) .done
  | failed {name : String} {value : Input} {message : String} (own : isPrivate name = true)
    (failed : attributes.set record name value = .error message) :
    Answered model attributes record (.set name value) (.failed message)
  | compared {fields : Fields} {other : α} (built : model.build fields = .ok other) :
    Answered model attributes record (.compare fields) (.equal (record = other))
  | rejected {fields : Fields} {faults : List Fault} (failed : model.build fields = .error faults) :
    Answered model attributes record (.compare fields) (.rejected faults)
  | dump : Answered model attributes record .dump (.contents record)

/-- Whatever else is tried, each barred attempt is refused under its name. As long as no attempt
reaches the fields through a private name the record stays what it is, however many attempts there
are, and each is answered as if it were the only one. -/
structure Frozen (model : Model α) (attributes : Attributes α) (record : α) : Prop where
  refuses : ∀ attempts, List.Forall₂
    (fun attempt reply => ∀ name, attempt.Barred name → reply = .frozen name)
    attempts (run model attributes record attempts)
  stays : ∀ attempts, (∀ attempt ∈ attempts, attempt.Spares attributes record) →
    after model attributes record attempts = record ∧
      List.Forall₂ (Answered model attributes record) attempts
        (run model attributes record attempts)

variable {model : Model α} (attributes : Attributes α) (record : α)

theorem handle_of_barred (frozen : model.frozen = true) {attempt : Attempt} {name : String}
    (barred : attempt.Barred name) :
    handle model attributes record attempt = (.frozen name, record) := by
  cases barred with
  | set value shared =>
      rw [handle, frozen, shared]
      rfl
  | delete => rw [handle, if_pos frozen]

theorem handle_set_of_private {name : String} (own : isPrivate name = true) (value : Input) :
    handle model attributes record (.set name value) =
      settle record (attributes.set record name value) := by
  rw [handle, own, Bool.not_true, Bool.and_false, if_neg Bool.false_ne_true]

theorem answered_handle (frozen : model.frozen = true) {attempt : Attempt}
    (spares : attempt.Spares attributes record) :
    (handle model attributes record attempt).2 = record ∧
      Answered model attributes record attempt (handle model attributes record attempt).1 := by
  cases attempt with
  | dump => exact ⟨rfl, .dump⟩
  | delete name =>
      rw [handle_of_barred attributes record frozen (.delete name)]
      exact ⟨rfl, .barred (.delete name)⟩
  | compare fields =>
      rw [handle]
      cases built : model.build fields with
      | ok other => exact ⟨rfl, .compared built⟩
      | error faults => exact ⟨rfl, .rejected built⟩
  | set name value =>
      cases own : isPrivate name with
      | false =>
          have barred := Attempt.Barred.set value own
          rw [handle_of_barred attributes record frozen barred]
          exact ⟨rfl, .barred barred⟩
      | true =>
          rw [handle_set_of_private attributes record own]
          cases set : attributes.set record name value with
          | error message => exact ⟨rfl, .failed own set⟩
          | ok next =>
              obtain rfl := spares own next set
              exact ⟨rfl, .set own set⟩

theorem frozen_of_model (frozen : model.frozen = true) : Frozen model attributes record := by
  constructor
  · -- A private name may have changed the record by then, so any record has to do.
    intro attempts
    induction attempts generalizing record with
    | nil => exact .nil
    | cons attempt attempts ih =>
        refine .cons ?_ (ih (handle model attributes record attempt).2)
        intro name barred
        rw [handle_of_barred attributes record frozen barred]
  · intro attempts spared
    induction attempts with
    | nil => exact ⟨rfl, .nil⟩
    | cons attempt attempts ih =>
        rw [List.forall_mem_cons] at spared
        obtain ⟨same, answered⟩ := answered_handle attributes record frozen spared.1
        obtain ⟨kept, replies⟩ := ih spared.2
        have later : after model attributes record (attempt :: attempts) =
            after model attributes (handle model attributes record attempt).2 attempts := rfl
        have unrolled : run model attributes record (attempt :: attempts) =
            (handle model attributes record attempt).1 ::
              run model attributes (handle model attributes record attempt).2 attempts := rfl
        rw [later, unrolled, same]
        exact ⟨kept, .cons answered replies⟩

end

end Record

open Record

namespace Transaction.TxData

/-- The fields of a transaction. The recipient is the only one that has to be given. -/
def form : Form :=
  [("nonce", .quantity ""), ("gas_price", .quantity ""), ("gas_limit", .quantity ""),
    ("to", .text), ("value", .quantity "0x0"), ("data", .bytes)]

def contents (tx : TxData) : List Content :=
  [.text tx.nonce, .text tx.gasPrice, .text tx.gasLimit, .text tx.recipient, .text tx.value,
    .bytes tx.data]

theorem contents_injective : Function.Injective contents := by
  rintro ⟨⟩ ⟨⟩ same
  simpa [contents] using same

theorem holds_of_build {fields : Fields} {tx : TxData} (built : build fields = .ok tx) :
    form.Holds fields tx.contents := by
  obtain ⟨nonce, gasPrice, gasLimit, recipient, value, data⟩ := build_ok_iff.mp built
  exact .cons (Demand.takes_quantity nonce) <| .cons (Demand.takes_quantity gasPrice) <|
    .cons (Demand.takes_quantity gasLimit) <| .cons (Demand.takes_text recipient) <|
    .cons (Demand.takes_quantity value) <| .cons (Demand.takes_bytes data) .nil

theorem faults_of_build {fields : Fields} {faults : List Fault}
    (failed : build fields = .error faults) : faults = form.faults fields ∧ faults ≠ [] := by
  unfold build at failed
  dsimp only at failed
  split at failed
  · cases failed
  · rename_i incomplete
    cases failed
    constructor
    · simp [form, Form.faults, Demand.check, faultOf_map]
    · intro none
      simp only [List.append_eq_nil_iff, faultOf_eq_nil_iff] at none
      obtain ⟨⟨⟨⟨⟨⟨_, nonce⟩, _, gasPrice⟩, _, gasLimit⟩, _, recipient⟩, _, value⟩, _, data⟩ := none
      exact incomplete _ _ _ _ _ _ nonce gasPrice gasLimit recipient value data

theorem buildsBy_form : BuildsBy form contents build :=
  .of_faults (by decide) contents_injective holds_of_build faults_of_build

/-- What a field holds if nothing is given for it would be accepted if it were given. -/
theorem takes_default : ∀ entry ∈ form, ∀ content, entry.2.Takes none content →
    entry.2.Takes (some content.asInput) content := by
  have unset : MarkedQuantity "" := Or.inl rfl
  have zero : MarkedQuantity "0x0" := Or.inr ⟨['0'], rfl⟩
  intro entry inside content takes
  simp only [form, List.mem_cons, List.not_mem_nil, or_false] at inside
  rcases inside with rfl | rfl | rfl | rfl | rfl | rfl
  · cases takes
    exact .quantity (Or.inl rfl) unset
  · cases takes
    exact .quantity (Or.inl rfl) unset
  · cases takes
    exact .quantity (Or.inl rfl) unset
  · cases takes
  · cases takes
    exact .quantity (Or.inl rfl) zero
  · cases takes
    exact .bytes (Or.inl rfl)

end Transaction.TxData

namespace Network

/-- The fields of a network, all of which have to be given. -/
def form : Form := [("chain_id", .nonemptyText), ("name", .nonemptyText), ("abbr", .nonemptyText)]

def contents (network : Network) : List Content :=
  [.text network.chainId, .text network.name, .text network.abbreviation]

theorem contents_injective : Function.Injective contents := by
  rintro ⟨⟩ ⟨⟩ same
  simpa [contents] using same

theorem holds_of_build {fields : Fields} {network : Network} (built : build fields = .ok network) :
    form.Holds fields network.contents := by
  unfold build at built
  dsimp only at built
  split at built
  · rename_i chainId name abbreviation
    cases built
    exact .cons (Demand.takes_nonemptyText chainId) <| .cons (Demand.takes_nonemptyText name) <|
      .cons (Demand.takes_nonemptyText abbreviation) .nil
  · cases built

theorem faults_of_build {fields : Fields} {faults : List Fault}
    (failed : build fields = .error faults) : faults = form.faults fields ∧ faults ≠ [] := by
  unfold build at failed
  dsimp only at failed
  split at failed
  · cases failed
  · rename_i incomplete
    cases failed
    constructor
    · simp [form, Form.faults, Demand.check, faultOf_map]
    · intro none
      simp only [List.append_eq_nil_iff, faultOf_eq_nil_iff] at none
      obtain ⟨⟨⟨_, chainId⟩, _, name⟩, _, abbreviation⟩ := none
      exact incomplete _ _ _ chainId name abbreviation

theorem buildsBy_form : BuildsBy form contents build :=
  .of_faults (by decide) contents_injective holds_of_build faults_of_build

end Network

end WalletKit
