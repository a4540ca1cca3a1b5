/-
Module: Library.FifoLedger
Purpose: What a first-in first-out channel owes its users: the items it accepted
  and the items it delivered, in the order of the calls.  The items outstanding
  are those accepted after the last one delivered.
Trusted boundary: none
-/
import Mathlib

namespace OpenFlowController.Library

variable {μ : Type*}

/-- The items a channel accepted and delivered so far. -/
structure FifoLedger (μ : Type*) where
  accepted : List μ
  delivered : List μ

namespace FifoLedger

def empty : FifoLedger μ := { accepted := [], delivered := [] }

def accept (ledger : FifoLedger μ) (item : μ) : FifoLedger μ :=
  { ledger with accepted := ledger.accepted ++ [item] }

def deliver (ledger : FifoLedger μ) (item : μ) : FifoLedger μ :=
  { ledger with delivered := ledger.delivered ++ [item] }

/-- The channel delivered a prefix of what it accepted and still owes the rest. -/
def Owes (ledger : FifoLedger μ) (outstanding : List μ) : Prop :=
  ledger.accepted = ledger.delivered ++ outstanding

namespace Owes

variable {ledger : FifoLedger μ} {outstanding : List μ} {item : μ}

theorem empty : (empty : FifoLedger μ).Owes [] :=
  rfl

theorem accept (owes : ledger.Owes outstanding) (item : μ) :
    (ledger.accept item).Owes (outstanding ++ [item]) := by
  have grown := congrArg (fun items => items ++ [item]) owes
  simpa [Owes, FifoLedger.accept] using grown

theorem deliver (owes : ledger.Owes (item :: outstanding)) :
    (ledger.deliver item).Owes outstanding := by
  simpa [Owes, FifoLedger.deliver] using owes

end Owes

end FifoLedger

end OpenFlowController.Library
