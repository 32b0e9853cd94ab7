import CompilePlayground.Shell.Session

namespace CompilePlayground.Shell

open Posix

/-!
# Redirections

A redirection lets a descriptor stand for another file. What it stood for before is kept in a
descriptor that is private to the shell, to be put back when the command is done.
-/

/-- A redirection whose target is known. -/
structure Opening where
  direction : Direction
  descriptor : Nat
  target : Octets
  deriving Repr, DecidableEq

/-- A descriptor, and where that which it stood for is kept. -/
structure Kept where
  descriptor : Nat
  place? : Option Nat
  deriving Repr, DecidableEq

namespace Opening

/-- What is said when a file cannot be opened. -/
def refusal (isMade : Bool) (name : Octets) (error : SystemError) : Octets :=
  let reason :=
    if error = .notFound || error = .notDirectory then
      (if isMade then "Directory nonexistent" else "No such file").toList
    else Run.describe error
  (if isMade then "cannot create " else "cannot open ").toList ++ name ++ ": ".toList ++ reason

/-- Let one descriptor stand for what another stands for, and close that. -/
def move (source target : Nat) : Run Unit := do
  if source != target then
    discard <| Run.ask (.duplicate source target)
    discard <| Run.ask (.closeFile source)

/-- Let the descriptor stand for a file that is opened. Whether that could be done is the
value. -/
def openInto (opening : Opening) (mode : OpenMode) : Run Bool := do
  match ← Run.ask (.openFile (Text.Octets.toBytes opening.target) mode) with
  | .ok descriptor => do
    move descriptor opening.descriptor
    pure true
  | .error error => do
    Run.warn (refusal (mode != .read) opening.target error)
    pure false

/-- Let the descriptor stand for what a redirection says. Whether that could be done is the
value. -/
def perform (opening : Opening) : Run Bool := do
  match opening.direction with
  | .input => opening.openInto .read
  | .output => opening.openInto .truncate
  | .append => opening.openInto .append
  | .both => opening.openInto .update
  | .text => do
    let (reader, writer) ← Run.ask .openPipe
    discard <| Run.write writer opening.target
    discard <| Run.ask (.closeFile writer)
    move reader opening.descriptor
    pure true
  | .copy =>
    match opening.target with
    | ['-'] => do
      discard <| Run.ask (.closeFile opening.descriptor)
      pure true
    | [digit] =>
      if digit.isDigit then do
        let source := digit.toNat - '0'.toNat
        if source = opening.descriptor then pure true
        else
          match ← Run.ask (.duplicate source opening.descriptor) with
          | .ok _ => pure true
          | .error error => do
            Run.warn ([digit] ++ ": ".toList ++ Run.describe error)
            pure false
      else do
        Run.warn "Syntax error: Bad fd number".toList
        pure false
    | _ => do
      Run.warn "Syntax error: Bad fd number".toList
      pure false

/-- Keep what a descriptor stands for. -/
def keep (descriptor : Nat) : Run Kept := do
  match ← Run.ask (.duplicateFrom descriptor 10) with
  | .ok place => pure ⟨descriptor, some place⟩
  | .error _ => pure ⟨descriptor, none⟩

/-- Let descriptors stand again for what they stood for. -/
def restore : List Kept → Run Unit
  | [] => pure ()
  | kept :: rest => do
    match kept.place? with
    | some place => move place kept.descriptor
    | none => discard <| Run.ask (.closeFile kept.descriptor)
    restore rest

/-- Carry out redirections one after the other as far as that can be done, with what has been
kept, the last first. -/
def performAll (keeps : Bool) : List Opening → List Kept → Run (Bool × List Kept)
  | [], kept => pure (true, kept)
  | opening :: rest, kept => do
    let before ← (if keeps then do
        let place ← keep opening.descriptor
        pure (place :: kept)
      else pure kept)
    if ← opening.perform then performAll keeps rest before
    else pure (false, before)

end Opening

end CompilePlayground.Shell
