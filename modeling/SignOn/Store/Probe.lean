import SignOn.Store.Backend

/-!
# Probed backends

A probe stands in front of a backend. It keeps a journal of the calls it passes on, and it can be
told to let a later call fail, so that failures in the middle of an operation can be brought about
on purpose.

## Main definitions

* `StoreCall` - a call of a backend, without the ticket that is put
* `PlannedFault` - the kind of call that shall fail, after how many others, and with which reason
* `Probed` - a store with its journal and its planned faults
* `Backend.probed` - the backend behind a probe
-/

namespace SignOn

/-- A call of a backend. -/
inductive StoreCall where
  | get (key : String)
  | put (key : String)
  | delete (key : String)
  | scan
  deriving DecidableEq, Repr

/-- What a backend can be asked for. -/
inductive StoreCall.Kind where
  | get
  | put
  | delete
  | scan
  deriving DecidableEq, Repr

/-- The kind of a call. -/
def StoreCall.kind : StoreCall → StoreCall.Kind
  | .get _ => .get
  | .put _ => .put
  | .delete _ => .delete
  | .scan => .scan

/-- What is written for a call: what is asked for, and the key. -/
def StoreCall.text : StoreCall → String
  | .get key => "get " ++ key
  | .put key => "put " ++ key
  | .delete key => "delete " ++ key
  | .scan => "scan"

/-- The failure of one call. -/
structure PlannedFault where
  /-- The kind of call that shall fail. -/
  kind : StoreCall.Kind
  /-- How many calls of this kind are passed on before. -/
  skip : Nat
  /-- The reason that the backend gives. -/
  reason : String
  deriving DecidableEq, Repr

namespace PlannedFault

/-- What becomes of planned faults when a call of a kind comes in, and the reason if the call shall
fail. Only the oldest fault of the kind is looked at. -/
def meet (kind : StoreCall.Kind) : List PlannedFault → List PlannedFault × Option String
  | [] => ([], none)
  | fault :: rest =>
    if fault.kind = kind then
      if fault.skip = 0 then (rest, some fault.reason)
      else ({ fault with skip := fault.skip - 1 } :: rest, none)
    else
      let (rest, reason) := meet kind rest
      (fault :: rest, reason)

end PlannedFault

/-- A store with the calls it got and the faults planned for it. -/
structure Probed (σ : Type) where
  store : σ
  /-- The calls, the last one first. -/
  journal : List StoreCall
  /-- The planned faults, the oldest one first. -/
  faults : List PlannedFault

namespace Probed

variable {σ α : Type}

/-- A store that got no calls and for which no faults are planned. -/
def ofStore (store : σ) : Probed σ := ⟨store, [], []⟩

/-- The calls in their order. -/
def calls (p : Probed σ) : List StoreCall := p.journal.reverse

/-- The probe with an empty journal. -/
def forgetCalls (p : Probed σ) : Probed σ := { p with journal := [] }

/-- Plans a fault, after those planned before. -/
def plan (p : Probed σ) (fault : PlannedFault) : Probed σ :=
  { p with faults := p.faults ++ [fault] }

/-- Notes a call and passes it on, unless a planned fault is due. -/
def pass (call : StoreCall) (action : Action σ α) : Action (Probed σ) α := fun p =>
  -- A call that is made to fail is noted as well, but the backend never sees it.
  let journal := call :: p.journal
  match PlannedFault.meet call.kind p.faults with
  | (faults, some reason) => .error (.storage reason) ⟨p.store, journal, faults⟩
  | (faults, none) =>
    match action p.store with
    | .ok a store => .ok a ⟨store, journal, faults⟩
    | .error e store => .error e ⟨store, journal, faults⟩

/-- An action of the store itself, past the journal and the planned faults. -/
def directly (action : Action σ α) : Action (Probed σ) α := fun p =>
  match action p.store with
  | .ok a store => .ok a { p with store := store }
  | .error e store => .error e { p with store := store }

end Probed

/-- The backend behind a probe. What a scan finds is listed in the order of a rank. -/
def Backend.probed {σ : Type} (backend : Backend σ) (rank : Ticket → String) :
    Backend (Probed σ) where
  get key := Probed.pass (.get key) (backend.get key)
  put key ticket := Probed.pass (.put key) (backend.put key ticket)
  delete key := Probed.pass (.delete key) (backend.delete key)
  scan := do
    let found ← Probed.pass .scan backend.scan
    return found.mergeSort fun a b => decide (rank a ≤ rank b)

end SignOn
