import BuildTrial.Resource
import BuildTrial.Timed

/-!
# Versioned stores and the control plane

A store hands out snapshots with the version at which they were read, and takes an update only
against the version that is still current. `StoreCall T` are the calls on a store of `T`;
`PlaneCall` are those on a whole control plane, which has one store for each kind of resource, runs
commands on nodes and gives out the pull secret of the cluster.
-/

namespace BuildTrial

/-- A snapshot and the version at which it was read. -/
structure Versioned (T : Type) where
  object : T
  version : String
deriving DecidableEq, Repr

/-- A call on the store of one kind of resource. -/
inductive StoreCall (T : Type) where
  | get (name : String)
  | list
  | create (object : T)
  /-- Store `desired` if `expected` is still the version of the object. -/
  | update (name : String) (desired : T) (expected : String)
  | delete (name : String)
deriving Repr

namespace StoreCall

/-- What a successful call answers with. -/
@[reducible] def Answer {T : Type} : StoreCall T → Type
  | .get _ => Versioned T
  | .list => List (Versioned T)
  | .create _ => Versioned T
  | .update .. => Versioned T
  | .delete _ => Unit

end StoreCall

/-- The calls on a store, each of which may fail or panic. -/
@[reducible] def storeInterface (T : Type) : Interface where
  Query := StoreCall T
  Reply call := Attempted call.Answer

/-- A program that works on one store. -/
abbrev StoreProgram (T α : Type) : Type := Program (storeInterface T).timed α

def StoreCall.run {T : Type} (call : StoreCall T) : StoreProgram T (Except Error call.Answer) :=
  .ask (.call call) .ofOutcome

/-- A call on a control plane. -/
inductive PlaneCall where
  | store (kind : Kind) (call : StoreCall kind.Model)
  /-- Run a command on a node and answer with what it prints. -/
  | exec (node : String) (command : List String)
  /-- Read the pull secret of the cluster. -/
  | pullSecret

namespace PlaneCall

@[reducible] def Answer : PlaneCall → Type
  | .store _ call => call.Answer
  | .exec _ _ => String
  | .pullSecret => Secret

end PlaneCall

/-- The calls on a control plane, each of which may fail or panic. -/
@[reducible] def planeInterface : Interface where
  Query := PlaneCall
  Reply call := Attempted call.Answer

/-- A program that works on a control plane. -/
abbrev PlaneProgram (α : Type) : Type := Program planeInterface.timed α

def PlaneCall.run (call : PlaneCall) : PlaneProgram (Except Error call.Answer) :=
  .ask (.call call) .ofOutcome

/-- A program for one store, run on the store of its kind. -/
def onStore (kind : Kind) {α : Type} (p : StoreProgram kind.Model α) : PlaneProgram α :=
  p.within fun call => .ask (.call (.store kind call)) .done

end BuildTrial
