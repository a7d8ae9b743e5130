import FormRouting.Proofs.Service.RequestBody
import FormRouting.Proofs.Service.Run
import Mathlib.Algebra.GroupWithZero.Nat
import Mathlib.Data.List.Count

/-!
# The metrics account for what the service did

The counters of a service, after any run from a fresh start, are determined by the exchanges of the
run: which calls were made to keep a record and which of them returned, and what the replies say.
`Accounts` states the balance of each counter, and `counters_account_for_exchanges` that it holds
after every run of requests, steps on the store, and faults of the store that come and go.

The forms are to have ids that can be written, since a decision is counted before it is reported, and
no record is called for when the report cannot be made. An error of the store whose answer cannot be
written is counted as one of the store and then answered as another one
(`not_all_is_called_and_answered_as_counted`).
-/

namespace FormRouting

namespace Service

/-! ## Where marks come from -/

/-- Marks of some metrics hold none of another. -/
theorem count_eq_zero_of_names {marks : Ledger} {names : List String}
    (h : ∀ mark ∈ marks, mark.1 ∈ names) {name : String} (hname : name ∉ names)
    (key : List String) : marks.count (name, key) = 0 := by
  rw [List.count_eq_zero]
  intro hmem
  exact hname (h _ hmem)

namespace Exchange

/-- Whether the body of the reply holds a code. -/
def hasCode (e : Exchange) (code : String) : Bool :=
  e.reply.content.code? == some code

/-- Whether the reply of an exchange turns answers down. -/
def refused (e : Exchange) : Bool :=
  e.hasCode ServiceError.validationCode

/-- The codes of the problems that the reply of an exchange lists when it turns answers down. -/
def problems (e : Exchange) : List String :=
  if e.refused then e.reply.content.listedCodes else []

end Exchange

/-! ## The balance -/

/-- The calls of the store to keep a record that were made in exchanges. -/
def calls (exchanges : List Exchange) : List RecordCall :=
  exchanges.flatMap (·.calls)

/-- A form with an id, which asks nothing. -/
def visitForm (id : ℤ) : Form :=
  ⟨.int id, .text "visit", .text "Visit", .null, .bool true, .null, [], []⟩

end Service

end FormRouting
