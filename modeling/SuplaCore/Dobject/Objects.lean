import SuplaCore.Lib.Sys

/-!
# Distributed objects

`supla_dobjects` and `supla_abstract_dobject_remote_updater`
(`supla-server/src/distributedobjects/`): a container of objects with change indicators, and the
updater that sends what has changed in transactions.

What the virtual methods of an updater answer in a call of `update_remote` is part of the call
(`Answers`), by the place of the object they are asked about: none is asked twice about an object
in one call. The methods that were called are recorded (`Call`).
-/

namespace Dobject

/-- `supla_dobject_change_indicator`. -/
class ChangeIndicator (I : Type) where
  isChanged : I → Bool

/-- The class itself, which other indicators derive from, is a flag. -/
instance : ChangeIndicator Bool := ⟨fun changed => changed⟩

variable {I : Type} [ChangeIndicator I]

/-- `supla_dobject`. -/
structure Object (I : Type) where
  id : Int
  changeIndicator : Option I

def Object.isChanged (o : Object I) : Bool := o.changeIndicator.any ChangeIndicator.isChanged

/-! ## The updater -/

/-- The flags of `supla_abstract_dobject_remote_updater`. -/
structure Updater where
  transactionStarted : Bool
  transactionShouldEnd : Bool
  transactionRejected : Bool
  anyUpdates : Bool

def Updater.init : Updater := ⟨false, false, false, false⟩

/-- What `prepare_the_update` answers. `transactionShouldEnd` is `none` where it leaves the flag
alone. -/
structure Prepared (I : Type) where
  result : Bool
  newChangeIndicator : Option I
  transactionShouldEnd : Option Bool

/-- The answers of the virtual methods in one call of `update_remote`. -/
structure Answers (I : Type) where
  isProtocolVersionAllowed : Bool
  preTransactionVerification : Nat → Bool
  onTransactionBegin : Nat → Bool
  prepareTheUpdate : Nat → Prepared I

/-- The virtual methods that are called, with the place of the object. -/
inductive Call
  | preTransactionVerification (i : Nat) (first : Bool)
  | onTransactionBegin (i : Nat)
  | prepareTheUpdate (i : Nat)
  | onTransactionEnd
  deriving DecidableEq

def beginTransaction (a : Answers I) (i : Nat) (u : Updater) : Updater × List Call :=
  if u.transactionStarted then (u, [])
  else if a.onTransactionBegin i then (⟨true, false, false, false⟩, [.onTransactionBegin i])
  else ({ u with transactionRejected := true }, [.onTransactionBegin i])

/-- `update` from `prepare_the_update` on. -/
def prepare (a : Answers I) (i : Nat) (o : Object I) (u : Updater) :
    Object I × Updater × List Call :=
  let p := a.prepareTheUpdate i
  let u := { u with transactionShouldEnd := p.transactionShouldEnd.getD u.transactionShouldEnd }
  if p.result then
    ({ o with changeIndicator := p.newChangeIndicator }, { u with anyUpdates := true },
      [.prepareTheUpdate i])
  else (o, u, [.prepareTheUpdate i])

def update (a : Answers I) (i : Nat) (o : Object I) (u : Updater) :
    Object I × Updater × List Call :=
  if o.isChanged then
    if u.transactionStarted then prepare a i o u
    else
      let b := beginTransaction a i u
      if b.1.transactionRejected then (o, b.1, b.2)
      else
        let r := prepare a i o b.1
        (r.1, r.2.1, b.2 ++ r.2.2)
  else (o, u, [])

def Updater.isTransactionRejected (u : Updater) : Bool := u.transactionRejected

def Updater.isTransactionShouldEnd (u : Updater) : Bool :=
  if u.transactionStarted then u.transactionShouldEnd else false

def endTransaction (u : Updater) : Updater × List Call × Bool :=
  if u.transactionStarted then
    ({ u with transactionStarted := false }, [.onTransactionEnd], u.anyUpdates)
  else (u, [], false)

/-! ## The container -/

/-- The first loop of `update_remote`, from the place `i` on. -/
def verifyAll (a : Answers I) : Nat → List (Object I) → List Call
  | _, [] => []
  | i, _ :: objects =>
    .preTransactionVerification i (i == 0) ::
      if a.preTransactionVerification i then verifyAll a (i + 1) objects else []

/-- The second loop of `update_remote`, from the place `i` on. -/
def updateAll (a : Answers I) : Nat → List (Object I) → Updater →
    List (Object I) × Updater × List Call
  | _, [], u => ([], u, [])
  | i, o :: objects, u =>
    let r := update a i o u
    if r.2.1.isTransactionRejected || r.2.1.isTransactionShouldEnd then
      (r.1 :: objects, r.2.1, r.2.2)
    else
      let rest := updateAll a (i + 1) objects r.2.1
      (r.1 :: rest.1, rest.2.1, r.2.2 ++ rest.2.2)

structure Dobjects (I : Type) where
  objects : List (Object I)
  updater : Updater

/-- `update_remote`, with the methods that it calls. -/
def updateRemote (a : Answers I) (s : Dobjects I) : Dobjects I × List Call × Bool :=
  if a.isProtocolVersionAllowed then
    let verified := verifyAll a 0 s.objects
    let r := updateAll a 0 s.objects s.updater
    let e := endTransaction r.2.1
    (⟨r.1, e.1⟩, verified ++ r.2.2 ++ e.2.1, e.2.2)
  else (s, [], false)

inductive Op (I : Type)
  | updateRemote (a : Answers I)
  | setChangeIndicator (i : Nat) (indicator : Option I)
  | add (o : Object I)
  | remove (id : Int)
  | clear

def step (s : Dobjects I) : Op I → Option (Dobjects I)
  | .updateRemote a => some (updateRemote a s).1
  | .setChangeIndicator i indicator =>
    match s.objects[i]? with
    | none => none
    | some o =>
      some { s with objects := s.objects.set i { o with changeIndicator := indicator } }
  | .add o => some { s with objects := s.objects ++ [o] }
  | .remove id => some { s with objects := s.objects.eraseP (·.id = id) }
  | .clear => some { s with objects := [] }

/-- A container as it is constructed. -/
def machine (I : Type) [ChangeIndicator I] : Sys.Machine (Dobjects I) (Op I) where
  init s := s = ⟨[], .init⟩
  step := step

end Dobject
