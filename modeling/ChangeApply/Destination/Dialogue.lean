import ChangeApply.Destination.Request
import ChangeApply.Task

set_option autoImplicit false

/- Work on a destination as data: requests, each followed by what is done on its
   reply, with reports between them. Nothing is said here about who replies. -/
namespace ChangeApply

inductive Dialogue (α : Type) : Type where
  | done (result : α)
  | report (note : Report) (next : Dialogue α)
  | ask (request : Request) (next : request.Reply → Dialogue α)

namespace Dialogue

variable {α β : Type}

def bind : Dialogue α → (α → Dialogue β) → Dialogue β
  | .done result, next => next result
  | .report note rest, next => .report note (rest.bind next)
  | .ask asked rest, next => .ask asked fun reply => (rest reply).bind next

instance : Monad Dialogue where
  pure := .done
  bind := bind

def request (asked : Request) : Dialogue asked.Reply := .ask asked .done

def log (event : Log.Event) : Dialogue Unit := .report (.logged event) (.done ())

def count (counter : Counter) : Dialogue Unit := .report (.counted counter) (.done ())

def recordError (task message : String) : Dialogue Unit :=
  .report (.failed task message) (.done ())

end Dialogue

end ChangeApply
