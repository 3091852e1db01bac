import ConjugateResidual.Observer
import ConjugateResidual.Statistics

/-!
Several workspaces under names, used one step after another. A step that fails leaves the session
as the step itself left it; later steps go on.
-/

namespace ConjugateResidual

structure Session where
  workspaces : List (String × MachineWorkspace) := []
  /-- The names under which a workspace is held from outside. -/
  holders : List String := []
  reports : List (Report Float) := []

namespace Session

def find (session : Session) (name : String) : Except (Fault Float) MachineWorkspace :=
  match session.workspaces.lookup name with
  | some workspace => .ok workspace
  | none => .error .unknownName

def store (session : Session) (name : String) (workspace : MachineWorkspace) : Session :=
  { session with
    workspaces :=
      (name, workspace) :: session.workspaces.filter fun (other, _) => other != name }

def solve (session : Session) (name : String) (request : Request) (observer : MachineRun Bool) :
    Except (Fault Float) (MachineWorkspace × Report Float) × Trail Event Float × Session :=
  match session.find name with
  | .error fault => (.error fault, { printed := [], journal := [] }, session)
  | .ok workspace =>
      let (outcome, final) :=
        solveInPlace request.prepare observer { printed := [], journal := [], workspace }
      let stored := session.store name final.workspace
      match outcome with
      | .error fault => (.error fault, final.toTrail, stored)
      | .ok report =>
          (.ok (final.workspace, report), final.toTrail,
            { stored with reports := stored.reports ++ [report] })

def report (session : Session) (index : Int) : Except (Fault Float) (Report Float) :=
  itemAt session.reports index

def acquire (session : Session) (name : String) : Except (Fault Float) (Bool × Session) := do
  let workspace ← session.find name
  let held ← workspace.acquire
  let stored := session.store name held
  .ok (held.busy, { stored with holders := name :: session.holders })

def release (session : Session) (name : String) : Except (Fault Float) (Bool × Session) := do
  let workspace ← session.find name
  if session.holders.contains name then
    let free := workspace.release
    let stored := session.store name free
    .ok (free.busy, { stored with holders := session.holders.filter (· != name) })
  else .error .unknownName

def write (session : Session) (name part : String) : Fault Float :=
  match session.find name with
  | .ok workspace => workspace.writeTo part
  | .error fault => fault

def buffer (session : Session) (name : String) : Except (Fault Float) (Nat × Session) := do
  let workspace ← session.find name
  .ok (workspace.rows, session.store name workspace.withBuffer)

end Session

end ConjugateResidual
