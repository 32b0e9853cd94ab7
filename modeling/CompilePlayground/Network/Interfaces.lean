import CompilePlayground.Network.Address
import CompilePlayground.Posix.Program

namespace CompilePlayground.Network

open Posix

/-!
# What a machine has of a network

A program listens at an address of its own machine. Other machines, and its own, are reached
only over an interface that is up.
-/

/-- The network as one machine sees it: which addresses are its own, and whether anything can
be reached. -/
structure Interfaces where
  own : List Address
  isUp : Bool
  deriving Repr, DecidableEq

namespace Interfaces

/-- The address that stands for all of a machine's own. -/
def isUnspecified : Address → Bool
  | .four bytes => bytes.all (· = 0)
  | .six groups => groups.all (· = 0)

/-- The addresses that lead back to the machine that uses them. -/
def isLoopback : Address → Bool
  | .four bytes => bytes.head? = some 127
  | .six groups => groups = [0, 0, 0, 0, 0, 0, 0, 1]

/-- Whether a machine may listen at an address. The way back to itself leads over an interface
too. -/
def owns (interfaces : Interfaces) (address : Address) : Bool :=
  isUnspecified address || (interfaces.isUp && isLoopback address)
    || interfaces.own.contains address

/-- Listen at an address. -/
def listen (interfaces : Interfaces) (endpoint : Endpoint) : Reply Unit :=
  if interfaces.owns endpoint.address then .ok () else .error .addressNotOwn

/-- Reach for an address. -/
def connect (interfaces : Interfaces) (_ : Endpoint) : Reply Unit :=
  if interfaces.isUp then .ok () else .error .networkUnreachable

/-- A machine that no cable leads to. -/
def unplugged : Interfaces :=
  { own := [], isUp := false }

end Interfaces

end CompilePlayground.Network
